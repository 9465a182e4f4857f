import Flashcard.Html.Modes

/-!
# Foreign content

Inside elements of SVG and MathML most tokens add foreign elements, whatever the insertion mode is.
Tags that only HTML knows lead out of them, and some foreign elements hold HTML again.
-/

namespace Flashcard.Html

namespace Builder

/-- Whether an element of MathML holds HTML because it says so. -/
def annotatesHtml (e : Element) : Bool :=
  match e.attributes.lookup "encoding" with
  | some encoding => ["text/html", "application/xhtml+xml"].contains encoding.toLower
  | none => false

/-- Whether a token in the element `e` is treated by the rules of foreign content. -/
def isForeignIn (e : Element) (t : Token) : Bool :=
  match e.space, t with
  | .html, _ => false
  | _, .stop => false
  | .math, .char _ => !(holdsHtml .math e.name || e.name == "annotation-xml" && annotatesHtml e)
  | .math, .startTag tag =>
    if holdsHtml .math e.name then ["mglyph", "malignmark"].contains tag.name
    else if e.name == "annotation-xml" then tag.name != "svg" && !annotatesHtml e
    else true
  | .svg, .char _ => !holdsHtml .svg e.name
  | .svg, .startTag _ => !holdsHtml .svg e.name
  | _, _ => true

def isForeign (b : Builder) (t : Token) : Bool :=
  match b.stack.head?.bind b.element? with
  | some e => isForeignIn e t
  | none => false

/-- The start tags that lead out of foreign content. -/
def htmlOnly : List String :=
  ["b", "big", "blockquote", "body", "br", "center", "code", "dd", "div", "dl", "dt", "em",
   "embed", "h1", "h2", "h3", "h4", "h5", "h6", "head", "hr", "i", "img", "li", "listing", "menu",
   "meta", "nobr", "ol", "p", "pre", "ruby", "s", "small", "span", "strong", "strike", "sub",
   "sup", "table", "tt", "u", "ul", "var"]

def leadsOut (tag : Tag) : Bool :=
  htmlOnly.contains tag.name ||
    tag.name == "font" && ["color", "face", "size"].any fun a => (tag.attribute? a).isSome

/-- Closes foreign elements up to one whose content is HTML. -/
def leaveForeign (b : Builder) : Builder :=
  b.popWhile fun id => (b.element? id).any fun e => e.space != .html && !holdsHtml e.space e.name

def openForeignElement (b : Builder) (tag : Tag) : Builder :=
  match b.stack.head?.bind b.element? with
  | some e => (if tag.selfClosing then b.insertLeafIn e.space tag else b.insertIn e.space tag).1
  | none => b

/-- An end tag closes the foreign element of its name. It never closes the root, and an element of
HTML further out leaves it to the insertion mode. -/
def endInForeign (b : Builder) (name : String) : Builder × Verdict :=
  search true b.stack
where
  search (innermost : Bool) : List Nat → Builder × Verdict
    | [] => b.done
    | [_] => b.done
    | id :: below =>
      if !innermost && b.isHtml (fun _ => true) id then b.step (.endTag name)
      else if (b.element? id).any (·.name == name) then ({ b with stack := below } : Builder).done
      else search false below

def stepForeign (b : Builder) (t : Token) : Builder × Verdict :=
  match t with
  | .char c =>
    if c == '\x00' then (b.appendChar replacement).done
    else ((if isHtmlSpace c then b else b.setFramesetOk false).appendChar c).done
  | .startTag tag =>
    if leadsOut tag then b.leaveForeign.step t else (b.openForeignElement tag).done
  | .endTag name =>
    if name == "br" || name == "p" then b.leaveForeign.step t else b.endInForeign name
  | _ => b.done

end Builder

end Flashcard.Html
