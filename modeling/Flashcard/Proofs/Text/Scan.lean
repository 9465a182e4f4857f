import Flashcard.Text.Pattern

/-!
# Scanning a text

A scan meets each position of a text in turn. At a match it goes on behind the match, elsewhere it
passes one character. `Pattern.rewrite` is the text with every match replaced and `Pattern.found`
is the list of the matches. Both are determined by what happens at the front of a text
(`rewrite_hit`, `rewrite_miss` and their like), and `Pattern.scan_induction` is induction along a
scan.

`Cut.keep` writes out some of the matches of a cut and leaves the others standing.
-/

namespace Flashcard

namespace Cut

variable {α : Type}

/-- The cut with `before` in front of its text. -/
def after (before : List Char) : Cut α → Cut α
  | ⟨[], rest⟩ => ⟨[], before ++ rest⟩
  | ⟨(gap, a) :: hits, rest⟩ => ⟨(before ++ gap, a) :: hits, rest⟩

theorem after_after (u v : List Char) (c : Cut α) : (c.after v).after u = c.after (u ++ v) := by
  obtain ⟨_ | ⟨⟨gap, a⟩, hits⟩, rest⟩ := c <;> simp [after]

@[simp] theorem fill_after (f : α → List Char) (before : List Char) (c : Cut α) :
    (c.after before).fill f = before ++ c.fill f := by
  obtain ⟨_ | ⟨⟨gap, a⟩, hits⟩, rest⟩ := c <;> simp [after, fill]

@[simp] theorem map_snd_hits_after (before : List Char) (c : Cut α) :
    (c.after before).hits.map Prod.snd = c.hits.map Prod.snd := by
  obtain ⟨_ | ⟨⟨gap, a⟩, hits⟩, rest⟩ := c <;> simp [after]

theorem fill_cons (f : α → List Char) (gap : List Char) (a : α) (c : Cut α) :
    fill f ⟨(gap, a) :: c.hits, c.rest⟩ = gap ++ (f a ++ c.fill f) := by
  simp [fill]

/-- Writes `g a` for each match `a` that fails `p`, as part of the gap around it. -/
def keep (p : α → Bool) (g : α → List Char) (c : Cut α) : Cut α :=
  c.hits.foldr
    (fun (gap, a) later =>
      if p a then ⟨(gap, a) :: later.hits, later.rest⟩ else later.after (gap ++ g a))
    ⟨[], c.rest⟩

theorem keep_cons (p : α → Bool) (g : α → List Char) (gap : List Char) (a : α)
    (hits : List (List Char × α)) (rest : List Char) :
    keep p g ⟨(gap, a) :: hits, rest⟩ =
      if p a then ⟨(gap, a) :: (keep p g ⟨hits, rest⟩).hits, (keep p g ⟨hits, rest⟩).rest⟩
      else (keep p g ⟨hits, rest⟩).after (gap ++ g a) := rfl

theorem mem_hits_keep {p : α → Bool} {g : α → List Char} {c : Cut α} {hit : List Char × α}
    (h : hit ∈ (c.keep p g).hits) : p hit.2 ∧ hit.2 ∈ c.hits.map Prod.snd := by
  have hmem : hit.2 ∈ (c.keep p g).hits.map Prod.snd := List.mem_map_of_mem h
  obtain ⟨hits, rest⟩ := c
  clear h
  induction hits with
  | nil => cases hmem
  | cons first hits ih =>
    obtain ⟨gap, a⟩ := first
    rw [keep_cons] at hmem
    split at hmem
    · next ha =>
      obtain heq | hmem := List.mem_cons.1 hmem
      · exact ⟨heq ▸ ha, heq ▸ List.mem_cons_self⟩
      · exact (ih hmem).imp_right (List.mem_cons_of_mem a)
    · rw [map_snd_hits_after] at hmem
      exact (ih hmem).imp_right (List.mem_cons_of_mem a)

theorem fill_keep (p : α → Bool) (g f : α → List Char) (c : Cut α) :
    (c.keep p g).fill f = c.fill fun a => if p a then f a else g a := by
  obtain ⟨hits, rest⟩ := c
  induction hits with
  | nil => rfl
  | cons hit hits ih =>
    obtain ⟨gap, a⟩ := hit
    rw [keep_cons]
    split
    · next h =>
      rw [fill_cons, ih]
      simp [fill, h]
    · next h =>
      rw [fill_after, ih]
      simp [fill, h]

/-- The cut with `g a` in place of every match `a`. -/
def map (g : α → α) (c : Cut α) : Cut α := ⟨c.hits.map fun (gap, a) => (gap, g a), c.rest⟩

theorem map_cons (g : α → α) (gap : List Char) (a : α) (hits : List (List Char × α))
    (rest : List Char) :
    map g ⟨(gap, a) :: hits, rest⟩ =
      ⟨(gap, g a) :: (map g ⟨hits, rest⟩).hits, (map g ⟨hits, rest⟩).rest⟩ := rfl

theorem map_after (g : α → α) (before : List Char) (c : Cut α) :
    (c.after before).map g = (c.map g).after before := by
  obtain ⟨_ | ⟨⟨gap, a⟩, hits⟩, rest⟩ := c <;> rfl

/-- Replacing matches does not change which of them stay, if those written out are not replaced. -/
theorem keep_map {p : α → Bool} {h : α → List Char} {g : α → α} (hp : ∀ a, p (g a) = p a)
    (hout : ∀ a, p a = false → g a = a) (c : Cut α) :
    (c.map g).keep p h = (c.keep p h).map g := by
  obtain ⟨hits, rest⟩ := c
  induction hits with
  | nil => rfl
  | cons hit hits ih =>
    obtain ⟨gap, a⟩ := hit
    rw [map_cons, keep_cons, keep_cons, hp, ih]
    cases hkeep : p a with
    | true => rfl
    | false => rw [if_neg nofun, if_neg nofun, hout a hkeep, map_after]

end Cut

namespace Pattern

variable {α : Type} (p : Pattern α)

/-- The text with `f a` in place of every match `a`. -/
def rewrite (f : α → List Char) (s : List Char) : List Char := (p.cut s).fill f

/-- The matches in a text, from left to right. -/
def found (s : List Char) : List α := (p.cut s).hits.map Prod.snd

theorem replace_eq (f : α → String) (s : String) :
    p.replace f s = String.ofList (p.rewrite (fun a => (f a).toList) s.toList) := rfl

theorem findAll_eq (s : String) : p.findAll s = p.found s.toList := rfl

theorem matchAt_nil : p.matchAt [] = none := by
  cases h : p.matchAt [] with
  | none => rfl
  | some hit =>
    obtain ⟨a, rest⟩ := hit
    have := p.length_rest_lt h
    simp at this

theorem cutFrom_nil (gap : List Char) : p.cutFrom gap [] = ⟨[], gap.reverse⟩ := by
  rw [cutFrom]

theorem cutFrom_hit {s rest : List Char} {a : α} (gap : List Char)
    (h : p.matchAt s = some (a, rest)) :
    p.cutFrom gap s = ⟨(gap.reverse, a) :: (p.cut rest).hits, (p.cut rest).rest⟩ := by
  cases s with
  | nil => simp [matchAt_nil] at h
  | cons c s =>
    rw [cutFrom]
    split
    · next b t hb =>
      rw [h] at hb
      cases hb
      rfl
    · next hb => simp [h] at hb

theorem cutFrom_miss {c : Char} {s : List Char} (gap : List Char)
    (h : p.matchAt (c :: s) = none) : p.cutFrom gap (c :: s) = p.cutFrom (c :: gap) s := by
  rw [cutFrom]
  split
  · next b t hb => simp [h] at hb
  · rfl

theorem cutFrom_eq_after (gap s : List Char) :
    p.cutFrom gap s = (p.cut s).after gap.reverse := by
  induction hn : s.length using Nat.strongRecOn generalizing gap s with
  | ind n ih =>
    cases s with
    | nil => simp [cut, cutFrom_nil, Cut.after]
    | cons c s =>
      cases h : p.matchAt (c :: s) with
      | some hit =>
        obtain ⟨a, rest⟩ := hit
        simp [cut, p.cutFrom_hit _ h, Cut.after]
      | none =>
        have hlt : s.length < n := by simp [← hn]
        rw [cut, p.cutFrom_miss _ h, p.cutFrom_miss _ h, ih _ hlt (c :: gap) s rfl,
          ih _ hlt [c] s rfl, Cut.after_after]
        simp

@[simp] theorem cut_nil : p.cut [] = ⟨[], []⟩ := p.cutFrom_nil []

theorem cut_hit {s rest : List Char} {a : α} (h : p.matchAt s = some (a, rest)) :
    p.cut s = ⟨([], a) :: (p.cut rest).hits, (p.cut rest).rest⟩ := p.cutFrom_hit [] h

theorem cut_miss {c : Char} {s : List Char} (h : p.matchAt (c :: s) = none) :
    p.cut (c :: s) = (p.cut s).after [c] := by
  rw [cut, p.cutFrom_miss _ h, cutFrom_eq_after]
  rfl

@[simp] theorem rewrite_nil (f : α → List Char) : p.rewrite f [] = [] := by
  simp [rewrite, Cut.fill]

theorem rewrite_hit {s rest : List Char} {a : α} (f : α → List Char)
    (h : p.matchAt s = some (a, rest)) : p.rewrite f s = f a ++ p.rewrite f rest := by
  rw [rewrite, p.cut_hit h, Cut.fill_cons]
  rfl

theorem rewrite_miss {c : Char} {s : List Char} (f : α → List Char)
    (h : p.matchAt (c :: s) = none) : p.rewrite f (c :: s) = c :: p.rewrite f s := by
  simp [rewrite, p.cut_miss h]

@[simp] theorem found_nil : p.found [] = [] := by simp [found]

theorem found_hit {s rest : List Char} {a : α} (h : p.matchAt s = some (a, rest)) :
    p.found s = a :: p.found rest := by
  simp [found, p.cut_hit h]

theorem found_miss {c : Char} {s : List Char} (h : p.matchAt (c :: s) = none) :
    p.found (c :: s) = p.found s := by
  simp [found, p.cut_miss h]

/-- Induction along a scan: over the matches, and over the characters between them. -/
theorem scan_induction {motive : List Char → Prop} (nil : motive [])
    (hit : ∀ s a rest, p.matchAt s = some (a, rest) → motive rest → motive s)
    (miss : ∀ c s, p.matchAt (c :: s) = none → motive s → motive (c :: s)) (s : List Char) :
    motive s := by
  induction hn : s.length using Nat.strongRecOn generalizing s with
  | ind n ih =>
    cases s with
    | nil => exact nil
    | cons c s =>
      cases h : p.matchAt (c :: s) with
      | some m => exact hit _ m.1 m.2 h (ih _ (hn ▸ p.length_rest_lt h) _ rfl)
      | none => exact miss c s h (ih _ (by simp [← hn]) _ rfl)

/-- Every match that a scan finds stands somewhere in the text. -/
theorem exists_matchAt_of_mem_found {s : List Char} {a : α} (h : a ∈ p.found s) :
    ∃ before rest, p.matchAt (p.text a ++ rest) = some (a, rest) ∧
      s = before ++ p.text a ++ rest := by
  induction s using p.scan_induction with
  | nil => simp at h
  | hit s b rest hb ih =>
    rw [p.found_hit hb, List.mem_cons] at h
    have hs : s = p.text b ++ rest := p.matchAt_eq hb
    obtain rfl | h := h
    · exact ⟨[], rest, hs ▸ hb, by simp [hs]⟩
    · obtain ⟨before, t, ht, hrest⟩ := ih h
      exact ⟨p.text b ++ before, t, ht, by simp [hs, hrest]⟩
  | miss c s hc ih =>
    rw [p.found_miss hc] at h
    obtain ⟨before, t, ht, hs⟩ := ih h
    exact ⟨c :: before, t, ht, by simp [hs]⟩

/-- A scan finds something in every text that a match stands in. -/
theorem found_append_ne_nil {t rest : List Char} {a : α} (h : p.matchAt t = some (a, rest))
    (before : List Char) : p.found (before ++ t) ≠ [] := by
  induction before with
  | nil => simp [p.found_hit h]
  | cons c before ih =>
    cases hmatch : p.matchAt (c :: (before ++ t)) with
    | none => rwa [List.cons_append, p.found_miss hmatch]
    | some hit => simp [p.found_hit hmatch]

/-- A scan finds something exactly if a match stands somewhere in the text. -/
theorem found_ne_nil_iff {s : List Char} :
    p.found s ≠ [] ↔ ∃ before a rest, p.matchAt (p.text a ++ rest) = some (a, rest) ∧
      s = before ++ (p.text a ++ rest) := by
  constructor
  · intro h
    obtain ⟨a, ha⟩ := List.exists_mem_of_ne_nil _ h
    obtain ⟨before, rest, hmatch, hs⟩ := p.exists_matchAt_of_mem_found ha
    exact ⟨before, a, rest, hmatch, by simp [hs]⟩
  · rintro ⟨before, a, rest, hmatch, rfl⟩
    exact p.found_append_ne_nil hmatch before

/-- A text without a match stays as it is. -/
theorem rewrite_eq_self {s : List Char} (f : α → List Char) (h : p.found s = []) :
    p.rewrite f s = s := by
  induction s using p.scan_induction with
  | nil => simp
  | hit s a rest ha _ => simp [p.found_hit ha] at h
  | miss c s hc ih =>
    rw [p.found_miss hc] at h
    rw [p.rewrite_miss f hc, ih h]

/-- A scan leaves a text alone if each match has a character that the text does not have. -/
theorem rewrite_eq_self_of_notMem {c : Char} (hp : ∀ a, c ∈ p.text a) (f : α → List Char)
    {s : List Char} (hs : c ∉ s) : p.rewrite f s = s := by
  refine p.rewrite_eq_self f (List.eq_nil_iff_forall_not_mem.2 fun a ha => hs ?_)
  obtain ⟨before, rest, -, rfl⟩ := p.exists_matchAt_of_mem_found ha
  exact List.mem_append_left _ (List.mem_append_right _ (hp a))

theorem occursIn_iff (s : String) : p.occursIn s ↔ p.found s.toList ≠ [] := by
  simp [occursIn, found]

end Pattern

end Flashcard
