import Flashcard.Ordinal

/-!
# Notes, cards and designs

A note gives the fields of a design their values, in order, and a name may occur twice. A design
says how notes become cards: each variant of a standard design makes one card, and a cloze design
makes one card for each index among the note's deletions.
-/

namespace Flashcard

/-- Field names with their values, in order. -/
abbrev FieldValues := List (String × String)

/-- The two sides of a card. -/
structure Card where
  front : String
  back : String
deriving DecidableEq, Repr

/-- The templates of one card. -/
structure Variant where
  id : Ordinal
  name : String
  front : String
  back : String
  /-- A shorter front for lists of cards. -/
  shortFront : Option String := none
  /-- A shorter back for lists of cards. -/
  shortBack : Option String := none
deriving DecidableEq

inductive Kind where
  | standard
  | cloze
deriving DecidableEq, Repr

def Kind.name : Kind → String
  | standard => "standard"
  | cloze => "cloze"

/-- How a note becomes cards. -/
inductive Layout where
  /-- One card for each variant. -/
  | standard (variants : List Variant)
  /-- One card for each index among the note's deletions, all from one variant. -/
  | cloze (shared : Variant)
deriving DecidableEq

def Layout.kind : Layout → Kind
  | standard _ => .standard
  | cloze _ => .cloze

/-- What decides how a note's cards look. -/
structure Design where
  fields : List String
  layout : Layout
  css : String := ""
deriving DecidableEq

end Flashcard
