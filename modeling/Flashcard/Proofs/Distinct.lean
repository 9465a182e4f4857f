import Mathlib.Data.List.Basic

/-!
# The distinct elements of a list

`List.eraseDups` keeps the first of equal elements. `FirstAppearances l d` says without it what is
to be left of `l`: each element once, in the order in which they come up in `l` for the first time.
-/

namespace Flashcard

variable {α : Type} [DecidableEq α]

/-- Induction along `List.eraseDups`: the first element, and those that differ from it. -/
theorem eraseDups_induction {motive : List α → Prop} (nil : motive [])
    (cons : ∀ a l, motive (l.filter fun b => !b == a) → motive (a :: l)) (l : List α) :
    motive l := by
  induction hn : l.length using Nat.strongRecOn generalizing l with
  | ind n ih =>
    cases l with
    | nil => exact nil
    | cons a l =>
      have hlt : (l.filter fun b => !b == a).length < n := by
        have := List.length_filter_le (fun b => !b == a) l
        rw [List.length_cons] at hn
        omega
      exact cons a l (ih _ hlt _ rfl)

/-- Elements may be picked before those that occur again are left out. -/
theorem eraseDups_filter (p : α → Bool) (l : List α) :
    (l.filter p).eraseDups = l.eraseDups.filter p := by
  induction l using eraseDups_induction with
  | nil => rfl
  | cons a l ih =>
    have hcomm : (l.filter p).filter (fun b => !b == a) = (l.filter fun b => !b == a).filter p := by
      simp only [List.filter_filter, Bool.and_comm]
    cases ha : p a with
    | true =>
      rw [List.filter_cons_of_pos ha, List.eraseDups_cons, List.eraseDups_cons,
        List.filter_cons_of_pos ha, hcomm, ih]
    | false =>
      have hsame : (l.filter fun b => !b == a).filter p = l.filter p := by
        rw [List.filter_filter]
        refine List.filter_congr fun b _ => ?_
        by_cases hb : b = a <;> simp [hb, ha]
      rw [List.filter_cons_of_neg (by simp [ha]), List.eraseDups_cons,
        List.filter_cons_of_neg (by simp [ha]), ← ih, hsame]

theorem nodup_eraseDups (l : List α) : l.eraseDups.Nodup := by
  induction l using eraseDups_induction with
  | nil => exact List.nodup_nil
  | cons a l ih =>
    rw [List.eraseDups_cons, List.nodup_cons]
    exact ⟨by simp, ih⟩

/-- Leaving elements out does not change which of two others comes up first. -/
theorem idxOf_lt_of_filter {p : α → Bool} {l : List α} {a b : α} (hb : p b = true)
    (h : (l.filter p).idxOf a < (l.filter p).idxOf b) : l.idxOf a < l.idxOf b := by
  induction l with
  | nil => simp at h
  | cons c l ih =>
    by_cases hac : c = a
    · have hbc : c ≠ b := by
        rintro rfl
        exact absurd h (hac ▸ Nat.lt_irrefl _)
      rw [List.idxOf_cons_eq l hac, List.idxOf_cons_ne l hbc]
      exact Nat.succ_pos _
    · have hbc : c ≠ b := by
        rintro rfl
        rw [List.filter_cons_of_pos hb, List.idxOf_cons_eq (l.filter p) rfl] at h
        exact Nat.not_lt_zero _ h
      rw [List.idxOf_cons_ne l hac, List.idxOf_cons_ne l hbc]
      refine Nat.succ_lt_succ (ih ?_)
      by_cases hc : p c = true
      · rw [List.filter_cons_of_pos hc, List.idxOf_cons_ne _ hac, List.idxOf_cons_ne _ hbc] at h
        exact Nat.lt_of_succ_lt_succ h
      · rwa [List.filter_cons_of_neg hc] at h

/-- Whether `d` holds each element of `l` once, in the order of their first appearances. -/
structure FirstAppearances (l d : List α) : Prop where
  nodup : d.Nodup
  mem_iff : ∀ a, a ∈ d ↔ a ∈ l
  ordered : d.Pairwise fun a b => l.idxOf a < l.idxOf b

theorem firstAppearances_eraseDups (l : List α) : FirstAppearances l l.eraseDups := by
  refine ⟨nodup_eraseDups l, fun a => List.mem_eraseDups, ?_⟩
  induction l using eraseDups_induction with
  | nil => exact List.Pairwise.nil
  | cons a l ih =>
    have hkept {b : α} (hb : b ∈ (l.filter fun b => !b == a).eraseDups) : (!b == a) = true :=
      (List.mem_filter.1 (List.mem_eraseDups.1 hb)).2
    have hne {b : α} (hb : (!b == a) = true) : a ≠ b := by
      rintro rfl
      simp at hb
    rw [List.eraseDups_cons, List.pairwise_cons]
    constructor
    · intro b hb
      rw [List.idxOf_cons_eq l rfl, List.idxOf_cons_ne l (hne (hkept hb))]
      exact Nat.succ_pos _
    · refine ih.imp_of_mem fun {b c} hb hc hlt => ?_
      rw [List.idxOf_cons_ne l (hne (hkept hb)), List.idxOf_cons_ne l (hne (hkept hc))]
      exact Nat.succ_lt_succ (idxOf_lt_of_filter (hkept hc) hlt)

end Flashcard
