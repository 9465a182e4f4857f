/-!
# White space, blank texts and words

`isSpace` is Unicode's property White_Space. A text is blank when it shows nothing: it holds white
space and byte order marks only. `words` are the runs between white space, in order.
-/

namespace Flashcard

/-- The runs of Unicode's property White_Space. -/
def spaceRuns : List (Nat × Nat) :=
  [(0x09, 0x0D), (0x20, 0x20), (0x85, 0x85), (0xA0, 0xA0), (0x1680, 0x1680), (0x2000, 0x200A),
   (0x2028, 0x2029), (0x202F, 0x202F), (0x205F, 0x205F), (0x3000, 0x3000)]

def isSpace (c : Char) : Bool :=
  spaceRuns.any fun (first, last) => first ≤ c.toNat && c.toNat ≤ last

theorem isSpace_of_isWhitespace {c : Char} (h : c.isWhitespace) : isSpace c := by
  simp only [Char.isWhitespace, Bool.or_eq_true, decide_eq_true_eq] at h
  rcases h with ((rfl | rfl) | rfl) | rfl <;> decide

def isByteOrderMark (c : Char) : Bool := c == '\uFEFF'

/-- Whether a field value shows nothing. -/
def isBlank (s : String) : Bool := s.toList.all fun c => isSpace c || isByteOrderMark c

/-- The words of a text, where `word` holds the characters of the one begun, newest first. -/
def wordsFrom (word : List Char) : List Char → List (List Char)
  | [] => close word
  | c :: s => if isSpace c then close word ++ wordsFrom [] s else wordsFrom (c :: word) s
where
  close (word : List Char) : List (List Char) := if word.isEmpty then [] else [word.reverse]

/-- The words of a text, joined by single spaces. -/
def collapseSpace (s : String) : String :=
  " ".intercalate ((wordsFrom [] s.toList).map String.ofList)

end Flashcard
