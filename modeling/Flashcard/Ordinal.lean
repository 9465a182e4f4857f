import Flashcard.Error

/-!
# Ordinals

An ordinal names one card of a note. It is the id of a child template, or, for cloze notes, the
index of a deletion less one.
-/

namespace Flashcard

/-- The ordinals have 32 bits. -/
def Ordinal.bound : Nat := 4294967296

structure Ordinal where
  toNat : Nat
  isLt : toNat < Ordinal.bound
deriving DecidableEq

namespace Ordinal

/-- The ordinal of the first card. -/
def first : Ordinal := ⟨0, Nat.zero_lt_succ _⟩

def ofNat? (n : Nat) : Option Ordinal := if h : n < bound then some ⟨n, h⟩ else none

/-- The ordinal of the card at a position in a list. -/
def ofPosition (n : Nat) : Except RenderError Ordinal :=
  match ofNat? n with
  | some ord => .ok ord
  | none => .error (.ordinalOutOfRange n)

/-- The number that the deletions of this card carry: cards count from zero, deletions from one. -/
def deletionIndex (ord : Ordinal) : Nat := ord.toNat + 1

instance : ToString Ordinal := ⟨fun ord => toString ord.toNat⟩

end Ordinal

end Flashcard
