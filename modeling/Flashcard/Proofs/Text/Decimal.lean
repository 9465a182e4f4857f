import Flashcard.Text.Decimal

/-!
# Reading and writing numerals

A numeral without leading zeros is the numeral of its value (`toDigits_decimalValue`), and every
number is the value of its numeral (`decimalValue_toDigits`), also where zeros fill that up
(`decimalValue_padded`).
-/

namespace Flashcard

theorem exists_digit_of_isDecimalDigit {c : Char} (h : isDecimalDigit c) :
    c.toNat - '0'.toNat < 10 ∧ Nat.digitChar (c.toNat - '0'.toNat) = c := by
  simp only [isDecimalDigit, Bool.and_eq_true, decide_eq_true_eq, Char.le_def] at h
  have hlow : 48 ≤ c.toNat := h.1
  have hhigh : c.toNat ≤ 57 := h.2
  have hlt : c.toNat - '0'.toNat < 10 := by
    change c.toNat - 48 < 10
    omega
  refine ⟨hlt, Char.toNat_inj.1 ?_⟩
  rw [Nat.toNat_digitChar_of_lt_ten hlt]
  change 48 + (c.toNat - 48) = c.toNat
  omega

theorem decimalValue_toDigits (n : Nat) : decimalValue (Nat.toDigits 10 n) = n :=
  Nat.ofDigitChars_ten_toDigits

/-- Further digits go behind the numeral of a positive number. -/
theorem toDigits_foldl {digits : List Char} (h : ∀ c ∈ digits, isDecimalDigit c) {n : Nat}
    (hn : 0 < n) :
    Nat.toDigits 10 (digits.foldl (fun n c => 10 * n + (c.toNat - '0'.toNat)) n) =
      Nat.toDigits 10 n ++ digits := by
  induction digits generalizing n with
  | nil => simp
  | cons c digits ih =>
    obtain ⟨hc, hdigits⟩ := List.forall_mem_cons.1 h
    obtain ⟨hlt, hchar⟩ := exists_digit_of_isDecimalDigit hc
    have hlast : Nat.toDigits 10 (10 * n + (c.toNat - '0'.toNat)) = Nat.toDigits 10 n ++ [c] := by
      rw [← Nat.toDigits_append_toDigits (by omega) hn hlt, Nat.toDigits_of_lt_base hlt, hchar]
    rw [List.foldl_cons, ih hdigits (by omega), hlast, List.append_assoc, List.singleton_append]

/-- A numeral without leading zeros is the numeral of its value. -/
theorem toDigits_decimalValue {digits : List Char} (h : ∀ c ∈ digits, isDecimalDigit c)
    (hne : digits ≠ []) (hzero : ¬ ['0'] <+: digits) :
    Nat.toDigits 10 (decimalValue digits) = digits := by
  obtain ⟨c, digits, rfl⟩ := List.exists_cons_of_ne_nil hne
  obtain ⟨hc, hdigits⟩ := List.forall_mem_cons.1 h
  obtain ⟨hlt, hchar⟩ := exists_digit_of_isDecimalDigit hc
  have hpos : 0 < c.toNat - '0'.toNat := by
    rw [Nat.pos_iff_ne_zero]
    intro hc0
    rw [hc0] at hchar
    exact hzero ⟨digits, by rw [← hchar]; rfl⟩
  have hvalue : decimalValue (c :: digits) =
      digits.foldl (fun n c => 10 * n + (c.toNat - '0'.toNat)) (c.toNat - '0'.toNat) := by
    simp [decimalValue]
  rw [hvalue, toDigits_foldl hdigits hpos, Nat.toDigits_of_lt_base hlt, hchar,
    List.singleton_append]

theorem isDecimalDigit_of_mem_toDigits {n : Nat} {c : Char} (h : c ∈ Nat.toDigits 10 n) :
    isDecimalDigit c := by
  have hdigit := Nat.isDigit_of_mem_toDigits (by decide) (by decide) h
  simpa [Char.isDigit, isDecimalDigit, Char.le_def] using hdigit

theorem decimalValue_padded (width n : Nat) : decimalValue (padded width n) = n := by
  have hzeros (k : Nat) :
      (List.replicate k '0').foldl (fun n c => 10 * n + (c.toNat - '0'.toNat)) 0 = 0 := by
    induction k with
    | zero => rfl
    | succ k ih => rw [List.replicate_succ, List.foldl_cons, Nat.sub_self, ih]
  rw [padded, decimalValue, List.foldl_append, hzeros]
  exact decimalValue_toDigits n

theorem isDecimalDigit_of_mem_padded {width n : Nat} {c : Char} (h : c ∈ padded width n) :
    isDecimalDigit c := by
  obtain h | h := List.mem_append.1 h
  · obtain ⟨-, rfl⟩ := List.mem_replicate.1 h
    decide
  · exact isDecimalDigit_of_mem_toDigits h

theorem length_padded {width n : Nat} (hwidth : 0 < width) (h : n < Nat.pow 10 width) :
    (padded width n).length = width := by
  have := (Nat.length_toDigits_le_iff (by decide) hwidth).2 h
  simp [padded]
  omega

/-- A numeral begins with a digit. -/
theorem exists_padded_eq_cons (width n : Nat) :
    ∃ c ds, padded width n = c :: ds ∧ isDecimalDigit c := by
  have hne : padded width n ≠ [] := by simp [padded]
  obtain ⟨c, ds, hds⟩ := List.exists_cons_of_ne_nil hne
  exact ⟨c, ds, hds, isDecimalDigit_of_mem_padded (hds ▸ List.mem_cons_self)⟩

end Flashcard
