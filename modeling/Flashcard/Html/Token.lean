/-!
# Tokens of HTML

What a document is cut into before its tree is built. A tag's name and the names of its attributes
are in lower case, and no attribute name occurs twice in a tag.
-/

namespace Flashcard.Html

structure Tag where
  name : String
  attributes : List (String × String)
  selfClosing : Bool
deriving DecidableEq, Repr

namespace Tag

/-- Whether two tags have one name and the same attributes, in any order. -/
def sameElement (a b : Tag) : Bool :=
  a.name == b.name && a.attributes.length == b.attributes.length &&
    a.attributes.all b.attributes.contains

def attribute? (tag : Tag) (name : String) : Option String :=
  (tag.attributes.find? (·.1 == name)).map Prod.snd

end Tag

inductive Token where
  | startTag (tag : Tag)
  | endTag (name : String)
  | char (c : Char)
  | comment
  | doctype
  /-- A place that breaks the rules and holds nothing, but parts the tokens around it. -/
  | fault
  /-- The end of the document. -/
  | stop
deriving DecidableEq, Repr

/-- White space in HTML's own sense. -/
def isHtmlSpace (c : Char) : Bool :=
  c == ' ' || c == '\n' || c == '\t' || c == '\x0c' || c == '\r'

/-- Stands for a character that cannot stand for itself. -/
def replacement : Char := '\uFFFD'

/-- A text whose kind admits no null character. -/
def replaceNull (c : Char) : Char := if c == '\x00' then replacement else c

end Flashcard.Html
