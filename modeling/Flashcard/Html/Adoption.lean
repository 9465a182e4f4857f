import Flashcard.Html.Builder

/-!
# Misnested formatting

An end tag of a formatting element may stand where a block inside the element is still open. The
block then moves out of the element, and what the block holds goes into a copy of the element
inside the block. This is the adoption agency algorithm of the HTML standard.
-/

namespace Flashcard.Html

namespace Builder

/-- An end tag without a rule of its own closes the innermost element of its name, unless a special
element is open inside that. -/
def closeOrdinary (b : Builder) (name : String) : Builder :=
  search b.stack
where
  search : List Nat → Builder
    | [] => b
    | id :: below =>
      if b.named name id then { b with stack := below }
      else if b.oneOf special id then b
      else search below

/-- Makes a copy of a formatting element that is nowhere yet. -/
def copyOf (b : Builder) (tag : Tag) : Builder × Nat :=
  let (tree, id) := b.tree.create .html tag.name tag.attributes
  ({ b with tree := tree }, id)

def moveInto (b : Builder) (target id : Nat) : Builder :=
  { b with tree := (b.tree.detach id).append target (.element id) }

/-- The elements between a formatting element and a block inside it, while they are gone through
from the block outwards. -/
structure Passage where
  builder : Builder
  /-- What goes next into the element outside it. -/
  last : Nat
  /-- The entry after which the copy of the formatting element is entered, if not in its place. -/
  bookmark : Option Nat
  /-- The elements passed that stay open, outermost first. -/
  kept : List Nat

/-- Passes the element `id`, the `count`-th outside `block`: it is replaced by a copy that holds
what was passed before, or closed if it is no formatting element or too far out. -/
def pass (block : Nat) (p : Passage) (id count : Nat) : Passage :=
  let b := p.builder
  if count > 3 then { p with builder := b.removeFormatting id }
  else
    match b.formatting.find? (isEntryOf id) with
    | some (.element _ tag) =>
      let (b, copy) := b.copyOf tag
      let entries := b.formatting.map fun f => if isEntryOf id f then .element copy tag else f
      let b := ({ b with formatting := entries } : Builder).moveInto copy p.last
      ⟨b, copy, if p.last = block then some copy else p.bookmark, copy :: p.kept⟩
    | _ => p

/-- Moves `block` out of the formatting element `id`, which stands in the stack right on `below`.
The elements inside the block are `above`, and those between the two are `between`. -/
def moveBlockOut (b : Builder) (id : Nat) (tag : Tag) (above : List Nat) (block : Nat)
    (between below : List Nat) : Builder :=
  let p := (between.zipIdx 1).foldl (fun p (i, count) => pass block p i count) ⟨b, block, none, []⟩
  let kept := p.kept.reverse
  let b := { p.builder with
    tree := p.builder.tree.detach p.last
    stack := above ++ block :: kept ++ id :: below }
  let b := b.placeIn (below.headD 0) (.element p.last)
  let (b, copy) := b.copyOf tag
  let tree := (b.tree.moveContent block copy).append block (.element copy)
  let entry := Formatting.element copy tag
  let entries := match p.bookmark with
    | none => b.formatting.map fun f => if isEntryOf id f then entry else f
    | some mark =>
      let marked := b.formatting.flatMap fun f => if isEntryOf mark f then [entry, f] else [f]
      marked.eraseP (isEntryOf id)
  { b with tree := tree, formatting := entries, stack := above ++ copy :: block :: kept ++ below }

/-- One round: either there is nothing more to do, or a block has moved out. -/
def adoptOnce (b : Builder) (name : String) : Builder × Bool :=
  match b.recentFormatting.find? (·.2.name == name) with
  | none => (b.closeOrdinary name, false)
  | some (id, tag) =>
    let inner := b.stack.takeWhile (· ≠ id)
    match b.stack.drop inner.length with
    | [] => (b.removeFormatting id, false)
    | _ :: below =>
      if !b.inScope (boundary []) (· == id) then (b, false)
      else
        match inner.reverse.dropWhile (!b.oneOf special ·) with
        | [] => (({ b with stack := below } : Builder).removeFormatting id, false)
        | block :: above =>
          let between := inner.drop (above.length + 1)
          (b.moveBlockOut id tag above.reverse block between below, true)

/-- Treats the end tag of a formatting element. -/
def adopt (b : Builder) (name : String) : Builder :=
  if b.currentNamed name && !b.stack.head?.any b.isFormatting then b.pop else rounds 8 b
where
  rounds : Nat → Builder → Builder
    | 0, b => b
    | n + 1, b =>
      match b.adoptOnce name with
      | (b, true) => rounds n b
      | (b, false) => b

end Builder

end Flashcard.Html
