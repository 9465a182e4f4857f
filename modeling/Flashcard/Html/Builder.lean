import Flashcard.Html.Lexer
import Flashcard.Html.Tree

/-!
# Building a tree

A builder holds the tree so far, the stack of open elements, and the formatting elements that are
to be opened again where the text goes on. This module has the moves that the insertion modes are
made of: opening and closing elements, finding the place for a node, and reopening formatting.

Inside a table a node that no table may hold goes right before the table. This is called
fostering.
-/

namespace Flashcard.Html

/-- The insertion modes of the HTML standard. -/
inductive Mode where
  | initial
  | beforeHtml
  | beforeHead
  | inHead
  | afterHead
  | inBody
  | text
  | inTable
  | inTableText
  | inCaption
  | inColumnGroup
  | inTableBody
  | inRow
  | inCell
  | inSelect
  | inSelectInTable
  | inTemplate
  | afterBody
  | inFrameset
  | afterFrameset
  | afterAfterBody
  | afterAfterFrameset
deriving DecidableEq, Repr

/-- A formatting element with the tag that opened it, or the start of a part of the document whose
formatting does not leave it. -/
inductive Formatting where
  | marker
  | element (id : Nat) (tag : Tag)
deriving DecidableEq, Repr

structure Builder where
  tree : Tree
  mode : Mode
  /-- Where to go on after raw text or the text of a table. -/
  returnMode : Mode
  templateModes : List Mode
  /-- The open elements, innermost first. -/
  stack : List Nat
  /-- Newest first. -/
  formatting : List Formatting
  head : Option Nat
  form : Option Nat
  /-- Whether a frameset may still take the place of the body. -/
  framesetOk : Bool
  fostering : Bool
  /-- The text of a table that has not found its place, newest first. -/
  tableText : List Char
  /-- Whether a line end right after the last tag is to be dropped. -/
  skipNewline : Bool

/-- What is left to do with a token. -/
inductive Verdict where
  | done
  /-- Treat it again in the mode now set. -/
  | again
  /-- Read on in raw text. -/
  | raw (kind : RawKind)
  /-- Read all that is left as text. -/
  | rest
deriving DecidableEq, Repr

namespace Builder

def start : Builder where
  tree := ⟨#[]⟩
  mode := .initial
  returnMode := .initial
  templateModes := []
  stack := []
  formatting := []
  head := none
  form := none
  framesetOk := true
  fostering := false
  tableText := []
  skipNewline := false

/-! ## Looking at elements -/

def element? (b : Builder) (id : Nat) : Option Element := b.tree.element? id

/-- Whether an element is HTML's and its name passes `p`. -/
def isHtml (b : Builder) (p : String → Bool) (id : Nat) : Bool :=
  match b.element? id with
  | some e => e.space == .html && p e.name
  | none => false

def named (b : Builder) (name : String) (id : Nat) : Bool := b.isHtml (· == name) id

def oneOf (b : Builder) (names : List String) (id : Nat) : Bool := b.isHtml names.contains id

def currentNamed (b : Builder) (name : String) : Bool := b.stack.head?.any (b.named name)

def currentOneOf (b : Builder) (names : List String) : Bool := b.stack.head?.any (b.oneOf names)

/-- Whether an element of this name is open. -/
def hasOpen (b : Builder) (name : String) : Bool := b.stack.any (b.named name)

/-- The body, which is opened right inside the root. -/
def body? (b : Builder) : Option Nat :=
  match b.stack.reverse with
  | _ :: id :: _ => if b.named "body" id then some id else none
  | _ => none

/-! ## Classes of elements -/

def headings : List String := ["h1", "h2", "h3", "h4", "h5", "h6"]

/-- The elements whose end tags may be left out. -/
def impliedEnds : List String :=
  ["dd", "dt", "li", "option", "optgroup", "p", "rb", "rp", "rt", "rtc"]

/-- The elements that the end of a template closes. -/
def templateImpliedEnds : List String :=
  impliedEnds ++ ["caption", "colgroup", "tbody", "td", "tfoot", "th", "thead", "tr"]

/-- The elements that formatting and ordinary end tags do not reach through. -/
def special : List String :=
  ["address", "applet", "area", "article", "aside", "base", "basefont", "bgsound", "blockquote",
   "body", "br", "button", "caption", "center", "col", "colgroup", "dd", "details", "dir", "div",
   "dl", "dt", "embed", "fieldset", "figcaption", "figure", "footer", "form", "frame", "frameset",
   "h1", "h2", "h3", "h4", "h5", "h6", "head", "header", "hgroup", "hr", "html", "iframe", "img",
   "input", "isindex", "li", "link", "listing", "main", "marquee", "menu", "meta", "nav",
   "noembed", "noframes", "noscript", "object", "ol", "p", "param", "plaintext", "pre", "script",
   "section", "select", "source", "style", "summary", "table", "tbody", "td", "template",
   "textarea", "tfoot", "th", "thead", "title", "tr", "track", "ul", "wbr", "xmp"]

/-- The foreign elements whose content is HTML. -/
def holdsHtml : Space → String → Bool
  | .math, name => ["mi", "mo", "mn", "ms", "mtext"].contains name
  | .svg, name => ["foreignobject", "desc", "title"].contains name
  | .html, _ => false

/-- The elements that a search for an open element does not look beyond. -/
def boundary (extra : List String) (e : Element) : Bool :=
  match e.space with
  | .html =>
    (["applet", "caption", "html", "table", "td", "th", "marquee", "object", "template"] ++
      extra).contains e.name
  | space => holdsHtml space e.name

def tableBoundary (e : Element) : Bool :=
  e.space == .html && ["html", "table", "template"].contains e.name

def selectBoundary (e : Element) : Bool :=
  !(e.space == .html && ["optgroup", "option"].contains e.name)

/-- Whether an element that passes `p` is open inside the innermost boundary. -/
def inScope (b : Builder) (stops : Element → Bool) (p : Nat → Bool) : Bool :=
  search b.stack
where
  search : List Nat → Bool
    | [] => false
    | id :: below => p id || (!(b.element? id).any stops && search below)

def inDefaultScope (b : Builder) (name : String) : Bool := b.inScope (boundary []) (b.named name)

def inListScope (b : Builder) (name : String) : Bool :=
  b.inScope (boundary ["ol", "ul"]) (b.named name)

def inButtonScope (b : Builder) (name : String) : Bool :=
  b.inScope (boundary ["button"]) (b.named name)

def inTableScope (b : Builder) (name : String) : Bool := b.inScope tableBoundary (b.named name)

def inSelectScope (b : Builder) (name : String) : Bool := b.inScope selectBoundary (b.named name)

/-! ## Closing elements -/

def pop (b : Builder) : Builder := { b with stack := b.stack.tail }

/-- Closes the innermost elements that pass `p`. -/
def popWhile (b : Builder) (p : Nat → Bool) : Builder := { b with stack := b.stack.dropWhile p }

/-- Closes elements up to one that passes `p`, and that one too. -/
def popThrough (b : Builder) (p : Nat → Bool) : Builder := (b.popWhile (!p ·)).pop

def popThroughNamed (b : Builder) (name : String) : Builder := b.popThrough (b.named name)

/-- Closes elements up to one of these names. -/
def popTo (b : Builder) (names : List String) : Builder := b.popWhile (!b.oneOf names ·)

/-- Takes an element out of the stack, wherever it stands. -/
def removeOpen (b : Builder) (id : Nat) : Builder := { b with stack := b.stack.erase id }

def closeImplied (b : Builder) : Builder := b.popWhile (b.oneOf impliedEnds)

def closeImpliedExcept (b : Builder) (name : String) : Builder :=
  b.popWhile (b.isHtml fun n => n != name && impliedEnds.contains n)

def closeParagraph (b : Builder) : Builder := (b.closeImpliedExcept "p").popThroughNamed "p"

/-- Closes the paragraph that is open, if any. -/
def closeOpenParagraph (b : Builder) : Builder :=
  if b.inButtonScope "p" then b.closeParagraph else b

/-! ## Placing nodes -/

/-- The elements that foster what they may not hold. -/
def fosterers : List String := ["table", "tbody", "tfoot", "thead", "tr"]

/-- Puts a node right before the innermost open table. -/
def foster (b : Builder) (n : Node) : Tree :=
  search b.stack
where
  search : List Nat → Tree
    | [] => b.tree.append 0 n
    | id :: below =>
      if b.named "template" id then b.tree.append id n
      else if b.named "table" id then
        (b.tree.insertBefore? id n).getD (b.tree.append (below.headD 0) n)
      else search below

/-- Puts a node into `target`, or before the table if `target` must foster it. -/
def placeIn (b : Builder) (target : Nat) (n : Node) : Builder :=
  if b.fostering && b.oneOf fosterers target then { b with tree := b.foster n }
  else { b with tree := b.tree.append target n }

/-- Puts a node where the document goes on. -/
def place (b : Builder) (n : Node) : Builder := b.placeIn (b.stack.headD 0) n

def appendChar (b : Builder) (c : Char) : Builder := b.place (.char c)

/-- Makes an element without opening it. -/
def insertLeafIn (b : Builder) (space : Space) (tag : Tag) : Builder × Nat :=
  let (tree, id) := b.tree.create space tag.name tag.attributes
  (({ b with tree := tree } : Builder).place (.element id), id)

def insertLeaf (b : Builder) (tag : Tag) : Builder := (b.insertLeafIn .html tag).1

def insertIn (b : Builder) (space : Space) (tag : Tag) : Builder × Nat :=
  let (b, id) := b.insertLeafIn space tag
  ({ b with stack := id :: b.stack }, id)

/-- Makes an element and opens it. -/
def insert (b : Builder) (tag : Tag) : Builder := (b.insertIn .html tag).1

/-- Opens an element that the document leaves out. -/
def insertNamed (b : Builder) (name : String) : Builder := b.insert ⟨name, [], false⟩

/-- Makes and opens the root. -/
def insertRoot (b : Builder) : Builder :=
  let (tree, id) := b.tree.create .html "html" []
  { b with tree := tree, stack := [id] }

/-! ## Formatting -/

def pushMarker (b : Builder) : Builder := { b with formatting := .marker :: b.formatting }

/-- Forgets the formatting down to the last marker, and the marker. -/
def clearToMarker (b : Builder) : Builder :=
  { b with formatting := (b.formatting.dropWhile (· ≠ .marker)).tail }

/-- The formatting down to the last marker. -/
def recentFormatting (b : Builder) : List (Nat × Tag) :=
  (b.formatting.takeWhile (· ≠ .marker)).filterMap fun
    | .marker => none
    | .element id tag => some (id, tag)

def isEntryOf (id : Nat) : Formatting → Bool
  | .marker => false
  | .element i _ => i == id

def isFormatting (b : Builder) (id : Nat) : Bool := b.formatting.any (isEntryOf id)

def removeFormatting (b : Builder) (id : Nat) : Builder :=
  { b with formatting := b.formatting.eraseP (isEntryOf id) }

/-- Opens a formatting element. Of equal ones at most three are kept, and the oldest goes. -/
def insertFormatting (b : Builder) (tag : Tag) : Builder :=
  let equal := b.recentFormatting.filter (·.2.sameElement tag)
  let b := match equal.getLast? with
    | some (id, _) => if equal.length ≥ 3 then b.removeFormatting id else b
    | none => b
  let (b, id) := b.insertIn .html tag
  { b with formatting := .element id tag :: b.formatting }

/-- Whether an entry needs no reopening. -/
def isSettled (b : Builder) : Formatting → Bool
  | .marker => true
  | .element id _ => b.stack.contains id

/-- Opens again the formatting elements that were closed while their text goes on. -/
def reopenFormatting (b : Builder) : Builder :=
  let closed := b.formatting.takeWhile (!b.isSettled ·)
  closed.reverse.foldl reopen { b with formatting := b.formatting.drop closed.length }
where
  reopen (b : Builder) : Formatting → Builder
    | .marker => b
    | .element _ tag =>
      let (b, id) := b.insertIn .html tag
      { b with formatting := .element id tag :: b.formatting }

/-! ## Going on -/

def done (b : Builder) : Builder × Verdict := (b, .done)

def setMode (b : Builder) (mode : Mode) : Builder := { b with mode := mode }

def setFramesetOk (b : Builder) (ok : Bool) : Builder := { b with framesetOk := ok }

/-- Treats the token again in another mode. -/
def again (b : Builder) (mode : Mode) : Builder × Verdict := (b.setMode mode, .again)

/-- Opens an element whose content is raw text. -/
def readRaw (b : Builder) (tag : Tag) (kind : RawKind) : Builder × Verdict :=
  let b := b.insert tag
  ({ b with returnMode := b.mode, mode := .text }, .raw kind)

/-- The mode that the open elements ask for. -/
def resetMode (b : Builder) : Mode :=
  search b.stack
where
  search : List Nat → Mode
    | [] => .inBody
    | id :: below =>
      match b.element? id with
      | some ⟨.html, "select", _, _, _⟩ =>
        match below.find? (b.oneOf ["template", "table"]) with
        | some id => if b.named "table" id then .inSelectInTable else .inSelect
        | none => .inSelect
      | some ⟨.html, "td", _, _, _⟩ => if below.isEmpty then .inBody else .inCell
      | some ⟨.html, "th", _, _, _⟩ => if below.isEmpty then .inBody else .inCell
      | some ⟨.html, "tr", _, _, _⟩ => .inRow
      | some ⟨.html, "tbody", _, _, _⟩ => .inTableBody
      | some ⟨.html, "thead", _, _, _⟩ => .inTableBody
      | some ⟨.html, "tfoot", _, _, _⟩ => .inTableBody
      | some ⟨.html, "caption", _, _, _⟩ => .inCaption
      | some ⟨.html, "colgroup", _, _, _⟩ => .inColumnGroup
      | some ⟨.html, "table", _, _, _⟩ => .inTable
      | some ⟨.html, "template", _, _, _⟩ => b.templateModes.headD .inBody
      | some ⟨.html, "head", _, _, _⟩ => if below.isEmpty then .inBody else .inHead
      | some ⟨.html, "body", _, _, _⟩ => .inBody
      | some ⟨.html, "frameset", _, _, _⟩ => .inFrameset
      | some ⟨.html, "html", _, _, _⟩ => if b.head.isNone then .beforeHead else .afterHead
      | _ => search below

end Builder

end Flashcard.Html
