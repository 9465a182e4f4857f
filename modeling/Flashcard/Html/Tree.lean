/-!
# Trees of elements

The elements of a document under numbers, each with its parent and its content. Numbers are given
in the order of creation and never change, so an element keeps its number while it moves.

`Tree.text` reads the text of an element in document order. Scripts, styles, templates and titles
show no text, and a line break shows as the end of a line.
-/

namespace Flashcard.Html

/-- The language an element belongs to. -/
inductive Space where
  | html
  | svg
  | math
deriving DecidableEq, Repr

inductive Node where
  | char (c : Char)
  | element (id : Nat)
deriving DecidableEq, Repr

structure Element where
  space : Space
  name : String
  attributes : List (String × String)
  parent : Option Nat
  /-- What the element holds, newest first. -/
  content : List Node
deriving Repr

structure Tree where
  elements : Array Element

namespace Tree

def element? (t : Tree) (id : Nat) : Option Element := t.elements[id]?

def update (t : Tree) (id : Nat) (f : Element → Element) : Tree := ⟨t.elements.modify id f⟩

/-- A new element that is nowhere yet, and its number. -/
def create (t : Tree) (space : Space) (name : String) (attributes : List (String × String)) :
    Tree × Nat :=
  (⟨t.elements.push ⟨space, name, attributes, none, []⟩⟩, t.elements.size)

def setParent (t : Tree) (parent : Option Nat) : Node → Tree
  | .char _ => t
  | .element id => t.update id fun e => { e with parent := parent }

/-- Puts a node at the end of an element. -/
def append (t : Tree) (parent : Nat) (n : Node) : Tree :=
  (t.setParent (some parent) n).update parent fun e => { e with content := n :: e.content }

/-- Takes an element out of its parent. -/
def detach (t : Tree) (id : Nat) : Tree :=
  match (t.element? id).bind Element.parent with
  | none => t
  | some parent =>
    (t.setParent none (.element id)).update parent fun e =>
      { e with content := e.content.filter (· ≠ .element id) }

/-- Puts a node right before an element, or says that the element has no parent. -/
def insertBefore? (t : Tree) (sibling : Nat) (n : Node) : Option Tree := do
  let parent ← (t.element? sibling).bind Element.parent
  let place (m : Node) : List Node := if m = .element sibling then [m, n] else [m]
  return (t.setParent (some parent) n).update parent fun e =>
    { e with content := e.content.flatMap place }

/-- Moves all that `source` holds to the end of `target`. -/
def moveContent (t : Tree) (source target : Nat) : Tree :=
  match t.element? source with
  | none => t
  | some e =>
    let t := e.content.foldl (fun t n => t.setParent (some target) n) t
    let t := t.update source fun e => { e with content := [] }
    t.update target fun f => { f with content := e.content ++ f.content }

/-- The elements whose text is not shown. -/
def hidden : List String := ["script", "style", "template", "title"]

/-- The text of an element, to a depth of `fuel` elements. -/
def textWithin (t : Tree) : Nat → Nat → List Char
  | 0, _ => []
  | fuel + 1, id =>
    match t.element? id with
    | none => []
    | some e =>
      if hidden.contains e.name then []
      else
        let inner := e.content.reverse.flatMap fun
          | .char c => [c]
          | .element id => t.textWithin fuel id
        if e.name == "br" then '\n' :: inner else inner

/-- The text of an element. No element is deeper than the tree has elements. -/
def text (t : Tree) (id : Nat) : List Char := t.textWithin t.elements.size id

end Tree

end Flashcard.Html
