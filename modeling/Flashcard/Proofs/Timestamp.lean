import Flashcard.Proofs.Text.Decimal
import Flashcard.Proofs.Text.Words
import Flashcard.Timestamp

/-!
# Timestamps are read as they are written

Each scan takes the part that the printer wrote and leaves the text after it. All it has to know of
that text is how it begins, since a numeral ends where no digit follows, and no two numerals of
a timestamp stand side by side. So a timestamp that is written is read as itself (`parse?_print`).
-/

namespace Flashcard

namespace Timestamp

namespace Scan

section Parts

variable {α β : Type} {s t : List Char} {a : α} {c : Char}

theorem run_bind_of {p : Scan α} {f : α → Scan β} (h : p.run s = some (a, t)) :
    (p >>= f).run s = (f a).run t := by
  rw [StateT.run_bind, h]
  rfl

theorem run_discard {p : Scan α} (h : p.run s = some (a, t)) :
    (discard p).run s = some ((), t) := by
  change ((fun _ => ()) <$> p).run s = _
  rw [StateT.run_map, h]
  rfl

theorem run_liftOption {x : Option α} (h : x = some a) (s : List Char) :
    StateT.run (x : Scan α) s = some (a, s) := by
  rw [h]
  rfl

theorem run_get (s : List Char) : StateT.run (get : Scan (List Char)) s = some (s, s) := rfl

theorem run_set (s t : List Char) : StateT.run (set t : Scan PUnit) s = some ((), t) := rfl

theorem run_guard {p : Prop} [Decidable p] (h : p) (s : List Char) :
    StateT.run (guard p : Scan Unit) s = some ((), s) := by
  change (if p then pure () else failure : Scan Unit).run s = _
  rw [if_pos h]
  rfl

theorem run_skip_nil (p : Char → Bool) : (skip p).run [] = some ((), []) := rfl

theorem run_skip {p : Char → Bool} (h : ¬ p c) (s : List Char) :
    (skip p).run (c :: s) = some ((), c :: s) := by
  change some ((), (c :: s).dropWhile p) = _
  rw [List.dropWhile_cons_of_neg h]

theorem run_skip_padded (width n : Nat) (s : List Char) :
    (skip isSpace).run (padded width n ++ s) = some ((), padded width n ++ s) := by
  obtain ⟨c, ds, hds, hc⟩ := exists_padded_eq_cons width n
  rw [hds, List.cons_append]
  exact run_skip (not_isSpace_of_isDecimalDigit hc) _

theorem run_char {p : Char → Bool} (h : p c) (s : List Char) :
    (char p).run (c :: s) = some (c, s) := by
  rw [char, run_bind_of (run_get _)]
  change (guard _ >>= fun _ => _ : Scan Char).run _ = _
  rw [run_bind_of (run_guard h _), run_bind_of (run_set _ _)]
  rfl

theorem run_digits {max width n : Nat} (hmax : (padded width n).length ≤ max)
    (hc : ¬ isDecimalDigit c) (s : List Char) :
    (digits max).run (padded width n ++ c :: s) = some (padded width n, c :: s) := by
  have htake : ((padded width n ++ c :: s).take max).takeWhile isDecimalDigit = padded width n := by
    rw [List.take_append, List.take_of_length_le hmax,
      List.takeWhile_append_of_pos fun c => isDecimalDigit_of_mem_padded]
    cases max - (padded width n).length with
    | zero => simp
    | succ k => rw [List.take_succ_cons, List.takeWhile_cons_of_neg hc, List.append_nil]
  obtain ⟨d, ds, hds, -⟩ := exists_padded_eq_cons width n
  have hne : padded width n ≠ [] := by simp [hds]
  rw [digits, run_bind_of (run_get _)]
  change (guard _ >>= fun _ => _ : Scan (List Char)).run _ = _
  rw [htake, run_bind_of (run_guard (by simpa using hne) _), run_bind_of (run_set _ _),
    List.drop_left]
  rfl

theorem run_number {n : Nat} (hn : n < 100) (hc : ¬ isDecimalDigit c) (s : List Char) :
    number.run (padded 2 n ++ c :: s) = some (n, c :: s) := by
  have hlen : (padded 2 n).length = 2 := length_padded (by decide) hn
  rw [number, run_bind_of (run_skip_padded _ _ _),
    run_bind_of (run_digits (Nat.le_of_eq hlen) hc s), decimalValue_padded]
  rfl

theorem run_separator (h : ¬ isSpace c) (s : List Char) :
    (separator c).run (c :: s) = some ((), s) := by
  rw [separator, run_bind_of (run_skip h s)]
  exact run_discard (run_char (beq_self_eq_true c) s)

end Parts

theorem run_year (y : Int) (s : List Char) :
    year.run (printYear y ++ '-' :: s) = some (y, '-' :: s) := by
  have hhyphen : ¬ isDecimalDigit '-' := by decide
  unfold printYear
  split
  · next h =>
    have hyear : y.toNat < Nat.pow 10 4 := show y.toNat < 10000 by omega
    have hlen : (padded 4 y.toNat).length = 4 := length_padded (by decide) hyear
    rw [year, run_bind_of (run_skip_padded _ _ _), run_bind_of (run_get _)]
    obtain ⟨c, ds, hds, hc⟩ := exists_padded_eq_cons 4 y.toNat
    have hne {sign : Char} (hsign : ¬ isDecimalDigit sign) (rest : List Char) :
        padded 4 y.toNat ++ '-' :: s ≠ sign :: rest := fun heq => by
      rw [hds, List.cons_append, List.cons.injEq] at heq
      exact hsign (heq.1 ▸ hc)
    split
    · next heq => exact absurd heq (hne hhyphen _)
    · next heq => exact absurd heq (hne (by decide) _)
    · rw [run_bind_of (run_digits (Nat.le_of_eq hlen) hhyphen s), decimalValue_padded,
        Int.toNat_of_nonneg h.1]
      rfl
  · -- After a sign all digits are taken, however many.
    have hmax : (padded 4 y.natAbs).length ≤ (padded 4 y.natAbs ++ '-' :: s).length := by simp
    split
    · next hneg =>
      rw [year, List.cons_append, run_bind_of (run_skip (by decide) _), run_bind_of (run_get _)]
      change (set _ >>= fun _ => _ : Scan Int).run _ = _
      rw [run_bind_of (run_set _ _), run_bind_of (run_digits hmax hhyphen s), decimalValue_padded,
        StateT.run_pure, Int.ofNat_natAbs_of_nonpos (Int.le_of_lt hneg), Int.neg_neg]
      rfl
    · next hpos =>
      rw [year, List.cons_append, run_bind_of (run_skip (by decide) _), run_bind_of (run_get _)]
      change (set _ >>= fun _ => _ : Scan Int).run _ = _
      rw [run_bind_of (run_set _ _), run_bind_of (run_digits hmax hhyphen s), decimalValue_padded,
        StateT.run_pure, Int.natAbs_of_nonneg (Int.not_lt.1 hpos)]
      rfl

theorem run_date (d : Date) {c : Char} (hc : ¬ isDecimalDigit c) (s : List Char) :
    date.run (printYear d.year ++ '-' :: padded 2 d.month ++ '-' :: padded 2 d.day ++ c :: s) =
      some (d, c :: s) := by
  have hhyphen : ¬ isDecimalDigit '-' := by decide
  have hspace : ¬ isSpace '-' := by decide
  have hmonth := d.month_mem
  have hday := d.day_mem
  have hdays : daysInMonth d.year d.month ≤ 31 := by
    unfold daysInMonth
    grind
  simp only [List.append_assoc, List.cons_append]
  rw [date, run_bind_of (run_year _ _), run_bind_of (run_separator hspace _),
    run_bind_of (run_number (by omega) hhyphen _), run_bind_of (run_separator hspace _),
    run_bind_of (run_number (by omega) hc _)]
  refine run_liftOption ?_ _
  rw [Date.ofParts?, dif_pos ⟨d.year_mem, d.month_mem, d.day_mem⟩]

theorem run_fraction_padded {width n : Nat} (hwidth : 0 < width) (hmax : width ≤ 9)
    (hn : n < Nat.pow 10 width) (s : List Char) :
    fraction.run ('.' :: padded width n ++ 'Z' :: s) =
      some (n * Nat.pow 10 (9 - width), 'Z' :: s) := by
  have hlen : (padded width n).length = width := length_padded hwidth hn
  rw [fraction, List.cons_append, run_bind_of (run_get _)]
  change (set _ >>= fun _ => _ : Scan Nat).run _ = _
  rw [run_bind_of (run_set _ _), run_bind_of (run_digits (by omega) (by decide) s),
    run_bind_of (run_skip (by decide) _), decimalValue_padded, hlen]
  rfl

theorem run_fraction {n : Nat} (hn : n < 1000000000) (s : List Char) :
    fraction.run (printFraction n ++ 'Z' :: s) = some (n, 'Z' :: s) := by
  have hmilli : Nat.pow 10 3 = 1000 := rfl
  have hmicro : Nat.pow 10 6 = 1000000 := rfl
  have hnano : Nat.pow 10 9 = 1000000000 := rfl
  unfold printFraction
  split
  · next h => rw [h]; rfl
  split
  · next h =>
    rw [run_fraction_padded (by decide) (by decide) (by omega), hmicro,
      Nat.div_mul_cancel (Nat.dvd_of_mod_eq_zero h)]
  split
  · next h =>
    rw [run_fraction_padded (by decide) (by decide) (by omega), hmilli,
      Nat.div_mul_cancel (Nat.dvd_of_mod_eq_zero h)]
  · rw [run_fraction_padded (by decide) (by decide) (by omega)]
    exact congrArg (fun n => some (n, _)) (Nat.mul_one n)

theorem run_offset (s : List Char) : offset.run ('Z' :: s) = some (0, s) := rfl

/-- What stands after the seconds begins with no digit. -/
theorem exists_printFraction_eq_cons (n : Nat) (s : List Char) :
    ∃ c rest, printFraction n ++ 'Z' :: s = c :: rest ∧ ¬ isDecimalDigit c := by
  have hpoint : ¬ isDecimalDigit '.' := by decide
  unfold printFraction
  split
  · exact ⟨'Z', s, rfl, by decide⟩
  split
  · exact ⟨'.', _, rfl, hpoint⟩
  split
  · exact ⟨'.', _, rfl, hpoint⟩
  · exact ⟨'.', _, rfl, hpoint⟩

theorem moment_minute (t : Timestamp) :
    moment t.date (t.minute : Nat) t.second t.nanosecond = some t := by
  have hminute := t.minute.isLt
  rw [moment, if_neg (by omega), if_neg (by omega), Option.bind_eq_bind, Option.bind_some]
  exact dif_pos ⟨by omega, t.second.isLt, t.nanosecond.isLt⟩

theorem run_timestamp (t : Timestamp) : timestamp.run t.print.toList = some (t, []) := by
  have hhour : t.minute.val / 60 < 24 := by omega
  have hminute : t.minute.val % 60 < 60 := by omega
  have hT : ¬ isDecimalDigit 'T' := by decide
  have hcolon : ¬ isDecimalDigit ':' := by decide
  have hspace : ¬ isSpace ':' := by decide
  have hZ : ¬ isSpace 'Z' := by decide
  have hdate := run_date t.date hT
  obtain ⟨c, rest, hfraction, hc⟩ := exists_printFraction_eq_cons t.nanosecond []
  rw [print, String.toList_ofList]
  simp only [List.append_assoc, List.cons_append] at hdate ⊢
  rw [timestamp, run_bind_of (hdate _), run_bind_of (run_discard (run_char (by decide) _)),
    run_bind_of (run_number (by omega) hcolon _), run_bind_of (run_separator hspace _),
    run_bind_of (run_number (by omega) hcolon _), run_bind_of (run_separator hspace _),
    hfraction, run_bind_of (run_number (by omega) hc _), ← hfraction,
    run_bind_of (run_fraction t.nanosecond.isLt _), run_bind_of (run_skip hZ _),
    run_bind_of (run_offset _), run_bind_of (run_skip_nil _), run_bind_of (run_get _),
    run_bind_of (run_guard (by simp [hhour, hminute]) _), Nat.div_add_mod, Int.sub_zero]
  exact run_liftOption (moment_minute t) []

end Scan

theorem parse?_print (t : Timestamp) : parse? t.print = some t := by
  rw [parse?, Scan.run_timestamp, Option.map_some]

end Timestamp

end Flashcard
