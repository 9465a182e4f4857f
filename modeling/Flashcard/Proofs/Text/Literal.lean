import Flashcard.Text.Literal

/-!
# The first place of a literal text

`splitAt?` parts a text at the first place of a literal, and fails only where the literal stands
nowhere (`splitAt?_eq_some_iff`, `splitAt?_eq_none_iff`). What follows a text does not move the
place (`splitAt?_append`).
-/

namespace Flashcard

theorem after?_append (needle rest : List Char) : after? needle (needle ++ rest) = some rest :=
  after?_eq_some_iff.2 rfl

theorem after?_eq_none_iff {needle s : List Char} : after? needle s = none ↔ ¬ needle <+: s := by
  rw [Option.eq_none_iff_forall_ne_some]
  constructor
  · rintro h ⟨rest, rfl⟩
    exact h rest (after?_append _ _)
  · intro h rest hrest
    exact h ⟨rest, (after?_eq_some_iff.1 hrest).symm⟩

theorem splitFrom_eq_map (needle before s : List Char) :
    splitFrom needle before s =
      (splitAt? needle s).map fun (front, rest) => (before.reverse ++ front, rest) := by
  induction s generalizing before with
  | nil => cases h : after? needle [] <;> simp [splitAt?, splitFrom, h]
  | cons c s ih =>
    cases h : after? needle (c :: s) with
    | some rest => simp [splitAt?, splitFrom, h]
    | none =>
      simp only [splitAt?, splitFrom, h]
      rw [ih (c :: before), ih [c], Option.map_map]
      congr 1
      funext hit
      simp

theorem splitAt?_hit {needle s rest : List Char} (h : after? needle s = some rest) :
    splitAt? needle s = some ([], rest) := by
  cases s <;> simp [splitAt?, splitFrom, h]

theorem splitAt?_miss {needle s : List Char} {c : Char} (h : after? needle (c :: s) = none) :
    splitAt? needle (c :: s) = (splitAt? needle s).map fun (front, rest) => (c :: front, rest) := by
  rw [splitAt?, splitFrom, h]
  exact splitFrom_eq_map needle [c] s

theorem splitAt?_eq_none_iff {needle s : List Char} :
    splitAt? needle s = none ↔ ¬ needle <:+: s := by
  induction s with
  | nil => simp [splitAt?, splitFrom, after?_eq_none_iff]
  | cons c s ih =>
    rw [List.infix_cons_iff, not_or, ← ih, ← after?_eq_none_iff]
    cases h : after? needle (c :: s) with
    | some rest => simp [splitAt?_hit h]
    | none => simp [splitAt?_miss h]

/-- No place of the needle is further left. -/
theorem length_le_of_splitAt?_eq_some {needle s front rest before behind : List Char}
    (h : splitAt? needle s = some (front, rest)) (hs : s = before ++ needle ++ behind) :
    front.length ≤ before.length := by
  induction s generalizing front before with
  | nil =>
    have hfront := splitAt?_eq_some h
    simp only [List.nil_eq, List.append_eq_nil_iff] at hfront
    simp [hfront.1.1]
  | cons c s ih =>
    cases hc : after? needle (c :: s) with
    | some r =>
      rw [splitAt?_hit hc] at h
      cases h
      simp
    | none =>
      rw [splitAt?_miss hc] at h
      obtain ⟨⟨front', rest'⟩, h', heq⟩ := Option.map_eq_some_iff.1 h
      cases heq
      cases before with
      | nil => exact absurd ⟨behind, hs.symm⟩ (after?_eq_none_iff.1 hc)
      | cons b before =>
        simp only [List.cons_append, List.cons.injEq] at hs
        have := ih h' hs.2
        simpa using this

theorem splitAt?_eq_some_iff {needle s front rest : List Char} :
    splitAt? needle s = some (front, rest) ↔ s = front ++ needle ++ rest ∧
      ∀ before behind, s = before ++ needle ++ behind → front.length ≤ before.length := by
  constructor
  · intro h
    exact ⟨splitAt?_eq_some h, fun _ _ hs => length_le_of_splitAt?_eq_some h hs⟩
  · rintro ⟨hs, hfirst⟩
    cases h : splitAt? needle s with
    | none => exact absurd ⟨front, rest, hs.symm⟩ (splitAt?_eq_none_iff.1 h)
    | some hit =>
      obtain ⟨f, r⟩ := hit
      have hf : s = f ++ needle ++ r := splitAt?_eq_some h
      have hlen : f.length = front.length :=
        Nat.le_antisymm (length_le_of_splitAt?_eq_some h hs) (hfirst f r hf)
      rw [hf, List.append_assoc, List.append_assoc] at hs
      obtain ⟨rfl, htail⟩ := List.append_inj hs hlen
      rw [List.append_cancel_left htail]

/-- Of two places of the needle the one further left has less before it. -/
theorem prefix_of_places {needle s before behind before' behind' : List Char}
    (h : s = before ++ needle ++ behind) (h' : s = before' ++ needle ++ behind')
    (hle : before.length ≤ before'.length) : before <+: before' := by
  have hbegins : before <+: s := ⟨needle ++ behind, by rw [h, List.append_assoc]⟩
  have hbegins' : before' <+: s := ⟨needle ++ behind', by rw [h', List.append_assoc]⟩
  exact List.prefix_of_prefix_length_le hbegins hbegins' hle

theorem splitAt?_append {needle s front rest : List Char} (t : List Char)
    (h : splitAt? needle s = some (front, rest)) :
    splitAt? needle (s ++ t) = some (front, rest ++ t) := by
  obtain ⟨hs, hfirst⟩ := splitAt?_eq_some_iff.1 h
  refine splitAt?_eq_some_iff.2 ⟨by simp [hs], fun before behind heq => ?_⟩
  by_cases hlt : front.length ≤ before.length
  · exact hlt
  · have hlen : (before ++ needle).length ≤ s.length := by
      rw [hs]
      simp
      omega
    have hbegins : before ++ needle <+: s :=
      List.prefix_of_prefix_length_le ⟨behind, heq.symm⟩ ⟨t, rfl⟩ hlen
    obtain ⟨behind', hbehind⟩ := hbegins
    exact hfirst before behind' hbehind.symm

/-- A text that does not hold the needle's first character holds no place of the needle. -/
theorem splitAt?_append_of_notMem {c : Char} {s : List Char} (hs : c ∉ s) (needle t : List Char) :
    splitAt? (c :: needle) (s ++ t) =
      (splitAt? (c :: needle) t).map fun (front, rest) => (s ++ front, rest) := by
  induction s with
  | nil => simp
  | cons d s ih =>
    simp only [List.mem_cons, not_or] at hs
    have hmiss : after? (c :: needle) (d :: (s ++ t)) = none := by simp [after?, hs.1]
    rw [List.cons_append, splitAt?_miss hmiss, ih hs.2, Option.map_map]
    rfl

theorem infix_append_iff_of_notMem {c : Char} {s : List Char} (hs : c ∉ s) (needle t : List Char) :
    c :: needle <:+: s ++ t ↔ c :: needle <:+: t := by
  rw [← Decidable.not_iff_not, ← splitAt?_eq_none_iff, ← splitAt?_eq_none_iff,
    splitAt?_append_of_notMem hs, Option.map_eq_none_iff]

/-- A needle does not reach across a character that it does not hold. -/
theorem infix_append_cons_iff {needle : List Char} {c : Char} (hc : c ∉ needle) (s t : List Char) :
    needle <:+: s ++ c :: t ↔ needle <:+: s ∨ needle <:+: t := by
  constructor
  · rintro ⟨before, behind, h⟩
    rcases List.append_eq_append_iff.1 h with ⟨rest, rfl, -⟩ | ⟨rest, hbegin, hend⟩
    · exact .inl ⟨before, rest, rfl⟩
    cases rest with
    | nil => exact .inl ⟨before, [], by simpa using hbegin⟩
    | cons d rest =>
      obtain ⟨rfl, rfl⟩ := List.cons.inj hend
      rcases List.append_eq_append_iff.1 hbegin with ⟨gap, -, rfl⟩ | ⟨gap, -, hgap⟩
      · exact absurd (List.mem_append_right gap List.mem_cons_self) hc
      · cases gap with
        | nil => exact absurd (hgap ▸ List.mem_cons_self : c ∈ [] ++ needle) hc
        | cons e gap =>
          obtain ⟨-, rfl⟩ := List.cons.inj hgap
          exact .inr ⟨gap, behind, rfl⟩
  · rintro (h | h)
    · exact h.trans (List.prefix_append s _).isInfix
    · exact h.trans ((List.suffix_cons c t).trans (List.suffix_append s _)).isInfix

theorem splitAt?_of_notMem {c : Char} {s : List Char} (hs : c ∉ s) (needle t : List Char) :
    splitAt? (c :: needle) (s ++ (c :: needle ++ t)) = some (s, t) := by
  rw [splitAt?_append_of_notMem hs, splitAt?_hit (after?_append _ _)]
  simp

/-- Before the first place of the needle there is no other. -/
theorem not_infix_of_splitAt?_eq_some {needle s front rest : List Char} (hne : needle ≠ [])
    (h : splitAt? needle s = some (front, rest)) : ¬ needle <:+: front := by
  rintro ⟨before, behind, rfl⟩
  have hle := length_le_of_splitAt?_eq_some h
    (show s = before ++ needle ++ (behind ++ needle ++ rest) by simp [splitAt?_eq_some h])
  have hpos := List.length_pos_iff.2 hne
  simp only [List.length_append] at hle
  omega

/-- Taking a text away before the first place of the needle leaves the place the first one. -/
theorem splitAt?_of_append {needle before s front rest : List Char}
    (h : splitAt? needle (before ++ s) = some (before ++ front, rest)) :
    splitAt? needle s = some (front, rest) := by
  obtain ⟨hs, hfirst⟩ := splitAt?_eq_some_iff.1 h
  refine splitAt?_eq_some_iff.2 ⟨?_, fun u behind hu => ?_⟩
  · simpa only [List.append_assoc, List.append_cancel_left_eq] using hs
  · have hle := hfirst (before ++ u) behind (by simp [hu])
    simpa using hle

/-- A place of a doubled character does not lie around another character. -/
theorem splitAt?_append_cons {c e : Char} (he : e ≠ c) {x : List Char} (hx : ¬ [c, c] <:+: x)
    (y : List Char) :
    splitAt? [c, c] (x ++ e :: y) =
      (splitAt? [c, c] y).map fun (front, rest) => (x ++ e :: front, rest) := by
  induction x with
  | nil =>
    have hmem : c ∉ [e] := by simp [he.symm]
    exact splitAt?_append_of_notMem hmem [c] y
  | cons a x ih =>
    rw [List.infix_cons_iff, not_or] at hx
    have hmiss : after? [c, c] (a :: (x ++ e :: y)) = none := by
      rw [after?_eq_none_iff]
      intro hbegins
      cases x with
      | nil => simp [he.symm] at hbegins
      | cons b x => exact hx.1 (by simpa using hbegins)
    rw [List.cons_append, splitAt?_miss hmiss, ih hx.2, Option.map_map]
    rfl

theorem not_infix_append_cons {c e : Char} (he : e ≠ c) {x y : List Char}
    (hx : ¬ [c, c] <:+: x) (hy : ¬ [c, c] <:+: y) : ¬ [c, c] <:+: x ++ e :: y := by
  rw [← splitAt?_eq_none_iff] at hy ⊢
  rw [splitAt?_append_cons he hx, hy, Option.map_none]

/-- The first place of a doubled character lies behind a text exactly if the text neither holds the
doubled character nor ends in one half of it. -/
theorem splitAt?_doubled_iff {c : Char} {x y : List Char} :
    splitAt? [c, c] (x ++ [c, c] ++ y) = some (x, y) ↔ ¬ [c, c] <:+: x ∧ ¬ [c] <:+ x := by
  rw [splitAt?_eq_some_iff, and_iff_right rfl]
  constructor
  · intro hfirst
    constructor
    · rintro ⟨u, v, rfl⟩
      have hle := hfirst u (v ++ [c, c] ++ y) (by simp)
      simp only [List.length_append, List.length_cons, List.length_nil] at hle
      omega
    · rintro ⟨u, rfl⟩
      have hle := hfirst u ([c] ++ y) (by simp)
      simp only [List.length_append, List.length_cons, List.length_nil] at hle
      omega
  · rintro ⟨hholds, hend⟩ before behind heq
    refine Nat.le_of_not_lt fun hlt => ?_
    -- An earlier place lies in the text, or its first half ends the text.
    rw [List.append_assoc, List.append_assoc, List.append_eq_append_iff] at heq
    obtain ⟨u, rfl, -⟩ | ⟨u, rfl, hrest⟩ := heq
    · rw [List.length_append] at hlt
      omega
    · match u with
      | [] => simp at hlt
      | [d] =>
        simp only [List.cons_append, List.nil_append, List.cons.injEq] at hrest
        exact hend ⟨before, by rw [hrest.1]⟩
      | d :: d' :: u =>
        simp only [List.cons_append, List.nil_append, List.cons.injEq] at hrest
        obtain ⟨rfl, rfl, -⟩ := hrest
        exact hholds ⟨before, u, by simp⟩

end Flashcard
