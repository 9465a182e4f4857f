import Flashcard.Error
import Flashcard.Proofs.Text.Folding
import Flashcard.Proofs.Text.Literal
import Flashcard.Proofs.Text.Scan

/-!
# Expressions with groups

An `Expression` describes the texts that a directive may stand as. Its groups have names, and a
reader asks a match for the texts of the groups. `Expression.ways` lists the ways in which an
expression matches at the front of a text, the preferred one first: a lazy stretch is as short as
it can be, an eager one as long as it can be, and an optional part is taken where that is possible.

A match need not go through every group. It goes through those that are `Expression.required`
(`Expression.offers_of_subset_required`), so a reader that asks for these alone never fails.
-/

namespace Flashcard

/-- The runs of one kind of character at the front of a text, the shortest first. -/
def stretches (p : Char → Bool) : List Char → List (List Char × List Char)
  | [] => [([], [])]
  | c :: s =>
    ([], c :: s) :: if p c then (stretches p s).map fun (t, rest) => (c :: t, rest) else []

/-- What a match takes: its whole text and the texts of the groups that it goes through. -/
@[ext]
structure Captures where
  whole : List Char
  groups : List (String × List Char)

namespace Captures

def bare (text : List Char) : Captures := ⟨text, []⟩

instance : Append Captures := ⟨fun c d => ⟨c.whole ++ d.whole, c.groups ++ d.groups⟩⟩

@[simp] theorem bare_append (text : List Char) (c : Captures) :
    bare text ++ c = ⟨text ++ c.whole, c.groups⟩ := rfl

@[simp] theorem mk_append (text : List Char) (groups : List (String × List Char)) (c : Captures) :
    mk text groups ++ c = ⟨text ++ c.whole, groups ++ c.groups⟩ := rfl

/-- The text of a group. The group `0` is the whole match. -/
def group? (c : Captures) (name : String) : Option String :=
  (if name = "0" then some c.whole else c.groups.lookup name).map String.ofList

/-- The text of a group that every match is expected to go through. -/
def read (pattern name : String) (c : Captures) : Except RenderError String :=
  match c.group? name with
  | some text => .ok text
  | none => .error (.malformedDirective pattern name)

end Captures

inductive Expression where
  | empty
  | char (p : Char → Bool)
  | seq (first second : Expression)
  /-- Any number of characters of one kind, as few as possible. -/
  | lazily (p : Char → Bool)
  /-- Any number of characters of one kind, as many as possible. -/
  | eagerly (p : Char → Bool)
  | optional (e : Expression)
  | group (name : String) (e : Expression)

namespace Expression

/-- A fixed text. -/
def literal : List Char → Expression
  | [] => empty
  | a :: t => seq (char (a == ·)) (literal t)

/-- A fixed text in any letter case. -/
def spelled : List Char → Expression
  | [] => empty
  | a :: t => seq (char (sameLetter a)) (spelled t)

/-- The ways to match at the front of a text, the preferred one first. With each goes the text
after it. -/
def ways : Expression → List Char → List (Captures × List Char)
  | empty, s => [(.bare [], s)]
  | char _, [] => []
  | char p, c :: s => if p c then [(.bare [c], s)] else []
  | seq e f, s => (e.ways s).flatMap fun (c, t) => (f.ways t).map fun (d, rest) => (c ++ d, rest)
  | lazily p, s => (stretches p s).map fun (t, rest) => (.bare t, rest)
  | eagerly p, s => (stretches p s).reverse.map fun (t, rest) => (.bare t, rest)
  | optional e, s => e.ways s ++ [(.bare [], s)]
  | group name e, s =>
    (e.ways s).map fun (c, rest) => (⟨c.whole, (name, c.whole) :: c.groups⟩, rest)

theorem ways_char_of_pos {p : Char → Bool} {c : Char} (hc : p c = true) (s : List Char) :
    (char p).ways (c :: s) = [(.bare [c], s)] := if_pos hc

theorem ways_char_of_neg {p : Char → Bool} {c : Char} (hc : ¬ p c = true) (s : List Char) :
    (char p).ways (c :: s) = [] := if_neg hc

theorem ways_seq (e f : Expression) (s : List Char) :
    (seq e f).ways s =
      (e.ways s).flatMap fun (c, t) => (f.ways t).map fun (d, rest) => (c ++ d, rest) := rfl

theorem ways_lazily (p : Char → Bool) (s : List Char) :
    (lazily p).ways s = (stretches p s).map fun (t, rest) => (.bare t, rest) := rfl

theorem ways_eagerly (p : Char → Bool) (s : List Char) :
    (eagerly p).ways s = (stretches p s).reverse.map fun (t, rest) => (.bare t, rest) := rfl

theorem ways_optional (e : Expression) (s : List Char) :
    (optional e).ways s = e.ways s ++ [(.bare [], s)] := rfl

theorem ways_group (name : String) (e : Expression) (s : List Char) :
    (group name e).ways s =
      (e.ways s).map fun (c, rest) => (⟨c.whole, (name, c.whole) :: c.groups⟩, rest) := rfl

/-- The preferred way. -/
def first? (e : Expression) (s : List Char) : Option (Captures × List Char) := (e.ways s).head?

/-- The groups that every match goes through. -/
def required : Expression → List String
  | seq e f => e.required ++ f.required
  | group name e => name :: e.required
  | _ => []

/-- Whether every match takes at least one character. -/
def consumes : Expression → Bool
  | char _ => true
  | seq e f => e.consumes || f.consumes
  | group _ e => e.consumes
  | _ => false

end Expression

theorem append_of_mem_stretches {p : Char → Bool} {s t rest : List Char}
    (h : (t, rest) ∈ stretches p s) : s = t ++ rest := by
  induction s generalizing t with
  | nil =>
    cases List.mem_singleton.1 h
    rfl
  | cons c s ih =>
    obtain heq | h := List.mem_cons.1 h
    · cases heq
      rfl
    · split at h
      · obtain ⟨⟨t, rest⟩, hmem, heq⟩ := List.mem_map.1 h
        cases heq
        rw [ih hmem, List.cons_append]
      · cases h

namespace Expression

section Inversion

variable {p : Char → Bool} {e f : Expression} {s rest : List Char} {c : Captures}

theorem exists_of_mem_ways_char (h : (c, rest) ∈ (char p).ways s) :
    ∃ d, s = d :: rest ∧ c = .bare [d] := by
  cases s with
  | nil => cases h
  | cons d s =>
    by_cases hd : p d = true
    · rw [ways_char_of_pos hd] at h
      cases List.mem_singleton.1 h
      exact ⟨d, rfl, rfl⟩
    · rw [ways_char_of_neg hd] at h
      cases h

theorem exists_of_mem_ways_seq (h : (c, rest) ∈ (seq e f).ways s) :
    ∃ c₁ t c₂, (c₁, t) ∈ e.ways s ∧ (c₂, rest) ∈ f.ways t ∧ c = c₁ ++ c₂ := by
  obtain ⟨⟨c₁, t⟩, h₁, h⟩ := List.mem_flatMap.1 h
  obtain ⟨⟨c₂, rest⟩, h₂, heq⟩ := List.mem_map.1 h
  cases heq
  exact ⟨c₁, t, c₂, h₁, h₂, rfl⟩

theorem exists_of_mem_ways_group {name : String} (h : (c, rest) ∈ (group name e).ways s) :
    ∃ d, (d, rest) ∈ e.ways s ∧ c = ⟨d.whole, (name, d.whole) :: d.groups⟩ := by
  obtain ⟨⟨d, rest⟩, hd, heq⟩ := List.mem_map.1 h
  cases heq
  exact ⟨d, hd, rfl⟩

end Inversion

/-- A match and the text after it make up the text. -/
theorem whole_append_of_mem_ways {e : Expression} {s rest : List Char} {c : Captures}
    (h : (c, rest) ∈ e.ways s) : s = c.whole ++ rest := by
  induction e generalizing s c rest with
  | empty =>
    cases List.mem_singleton.1 h
    rfl
  | char p =>
    obtain ⟨d, rfl, rfl⟩ := exists_of_mem_ways_char h
    rfl
  | seq e f ihe ihf =>
    obtain ⟨c₁, t, c₂, h₁, h₂, rfl⟩ := exists_of_mem_ways_seq h
    rw [ihe h₁, ihf h₂]
    exact (List.append_assoc _ _ _).symm
  | lazily p =>
    obtain ⟨⟨t, rest⟩, ht, heq⟩ := List.mem_map.1 h
    cases heq
    exact append_of_mem_stretches ht
  | eagerly p =>
    obtain ⟨⟨t, rest⟩, ht, heq⟩ := List.mem_map.1 h
    cases heq
    exact append_of_mem_stretches (List.mem_reverse.1 ht)
  | optional e ih =>
    obtain h | h := List.mem_append.1 h
    · exact ih h
    · cases List.mem_singleton.1 h
      rfl
  | group name e ih =>
    obtain ⟨d, hd, rfl⟩ := exists_of_mem_ways_group h
    exact ih (c := d) hd

theorem whole_ne_nil_of_consumes {e : Expression} (he : e.consumes = true) {s rest : List Char}
    {c : Captures} (h : (c, rest) ∈ e.ways s) : c.whole ≠ [] := by
  induction e generalizing s c rest with
  | char p =>
    obtain ⟨d, rfl, rfl⟩ := exists_of_mem_ways_char h
    exact List.cons_ne_nil d []
  | seq e f ihe ihf =>
    obtain ⟨c₁, t, c₂, h₁, h₂, rfl⟩ := exists_of_mem_ways_seq h
    intro hnil
    obtain ⟨hwhole₁, hwhole₂⟩ := List.append_eq_nil_iff.1 hnil
    obtain he | he := Bool.or_eq_true_iff.1 he
    · exact ihe he h₁ hwhole₁
    · exact ihf he h₂ hwhole₂
  | group name e ih =>
    obtain ⟨d, hd, rfl⟩ := exists_of_mem_ways_group h
    exact ih (c := d) he hd
  | _ => cases he

theorem required_subset_groups {e : Expression} {s rest : List Char} {c : Captures}
    (h : (c, rest) ∈ e.ways s) : e.required ⊆ c.groups.map Prod.fst := by
  induction e generalizing s c rest with
  | seq e f ihe ihf =>
    obtain ⟨c₁, t, c₂, h₁, h₂, rfl⟩ := exists_of_mem_ways_seq h
    intro name hname
    have hgroups : (c₁ ++ c₂).groups = c₁.groups ++ c₂.groups := rfl
    rw [hgroups, List.map_append]
    obtain hname | hname := List.mem_append.1 hname
    · exact List.mem_append_left _ (ihe h₁ hname)
    · exact List.mem_append_right _ (ihf h₂ hname)
  | group name e ih =>
    obtain ⟨d, hd, rfl⟩ := exists_of_mem_ways_group h
    exact List.cons_subset_cons name (ih hd)
  | _ => exact List.nil_subset _

/-- Whether each match lets a reader have the groups `names`. -/
def Offers (e : Expression) (pattern : String) (names : List String) : Prop :=
  ∀ s c rest, (c, rest) ∈ e.ways s → ∀ name ∈ names, ∃ text, c.read pattern name = .ok text

/-- A reader never misses a group that every match goes through. -/
theorem offers_of_subset_required {e : Expression} {names : List String}
    (h : names ⊆ "0" :: e.required) (pattern : String) : e.Offers pattern names := by
  intro s c rest hway name hname
  have hgroup : (c.group? name).isSome := by
    rw [Captures.group?, Option.isSome_map]
    split
    · rfl
    · next hzero =>
      have hmem := required_subset_groups hway ((List.mem_cons.1 (h hname)).resolve_left hzero)
      obtain ⟨entry, hentry, rfl⟩ := List.mem_map.1 hmem
      exact List.lookup_isSome_iff.2 ⟨entry, hentry, beq_self_eq_true _⟩
  obtain ⟨text, htext⟩ := Option.isSome_iff_exists.1 hgroup
  exact ⟨text, by rw [Captures.read, htext]⟩

/-- The pattern that takes the preferred way. -/
def pattern (e : Expression) (consumes : e.consumes = true) : Pattern Captures where
  text := Captures.whole
  matchAt := e.first?
  matchAt_eq h := whole_append_of_mem_ways (List.mem_of_mem_head? h)
  text_ne_nil h := whole_ne_nil_of_consumes consumes (List.mem_of_mem_head? h)

/-! ### Preferred ways -/

theorem findSome?_toList {α β : Type} (o : Option α) (f : α → Option β) :
    o.toList.findSome? f = o.bind f := by
  cases o <;> simp

/-- The part that comes first goes through its ways until the other part matches behind one. -/
theorem first?_seq (e f : Expression) (s : List Char) :
    (seq e f).first? s = (e.ways s).findSome? fun (c, t) =>
      (f.first? t).map fun (d, rest) => (c ++ d, rest) := by
  simp only [first?, ways_seq, List.head?_flatMap, List.head?_map]

theorem first?_optional_seq (e f : Expression) (s : List Char) :
    (seq (optional e) f).first? s = ((seq e f).first? s).or (f.first? s) := by
  rw [first?_seq, first?_seq, ways_optional, List.findSome?_append, List.findSome?_singleton]
  congr 1
  exact Option.map_id'

theorem first?_seq_assoc (e f g : Expression) (s : List Char) :
    (seq (seq e f) g).first? s = (seq e (seq f g)).first? s := by
  have happend (c d d' : Captures) : c ++ d ++ d' = c ++ (d ++ d') :=
    Captures.ext (List.append_assoc _ _ _) (List.append_assoc _ _ _)
  simp only [first?, ways_seq, List.flatMap_assoc, List.flatMap_map, List.map_flatMap, List.map_map,
    Function.comp_def, happend]

theorem ways_literal (t s : List Char) :
    (literal t).ways s = ((after? t s).map fun rest => (.bare t, rest)).toList := by
  fun_induction after? t s with
  | case1 s => rfl
  | case2 a t => rfl
  | case3 t a s ih =>
    rw [literal, ways_seq, ways_char_of_pos (beq_self_eq_true a), List.flatMap_singleton]
    dsimp only
    rw [ih]
    cases after? t s <;> rfl
  | case4 a t b s hne =>
    rw [literal, ways_seq, ways_char_of_neg (by simpa using hne)]
    rfl

theorem ways_spelled (t s : List Char) :
    (spelled t).ways s = ((takeFolded? t s).map fun (w, rest) => (.bare w, rest)).toList := by
  fun_induction takeFolded? t s with
  | case1 s => rfl
  | case2 a t => rfl
  | case3 a t b s hsame ih =>
    rw [spelled, ways_seq, ways_char_of_pos hsame, List.flatMap_singleton]
    dsimp only
    rw [ih]
    cases takeFolded? t s <;> rfl
  | case4 a t b s hne =>
    rw [spelled, ways_seq, ways_char_of_neg hne]
    rfl

theorem first?_literal_seq (t : List Char) (e : Expression) (s : List Char) :
    (seq (literal t) e).first? s = (after? t s).bind fun s =>
      (e.first? s).map fun (c, rest) => (.bare t ++ c, rest) := by
  rw [first?_seq, ways_literal, findSome?_toList, Option.bind_map]
  rfl

theorem first?_spelled_seq (t : List Char) (e : Expression) (s : List Char) :
    (seq (spelled t) e).first? s = (takeFolded? t s).bind fun (w, s) =>
      (e.first? s).map fun (c, rest) => (.bare w ++ c, rest) := by
  rw [first?_seq, ways_spelled, findSome?_toList, Option.bind_map]
  rfl

/-- Whether an expression takes the text `needle` and no other. -/
def Fixed (e : Expression) (needle : List Char) : Prop :=
  ∀ s, e.first? s = (after? needle s).map fun rest => (.bare needle, rest)

theorem fixed_literal (t : List Char) : (literal t).Fixed t := by
  intro s
  rw [first?, ways_literal, Option.head?_toList]

theorem first?_spelled (t s : List Char) :
    (spelled t).first? s = (takeFolded? t s).map fun (w, rest) => (.bare w, rest) := by
  rw [first?, ways_spelled, Option.head?_toList]

/-- An eager stretch ends only where its characters end, if nothing can follow it earlier. -/
theorem findSome?_reverse_stretches {β : Type} {p : Char → Bool}
    {k : List Char × List Char → Option β}
    (hk : ∀ t c rest, p c = true → k (t, c :: rest) = none) (s : List Char) :
    (stretches p s).reverse.findSome? k = k (s.takeWhile p, s.dropWhile p) := by
  induction s generalizing k with
  | nil => simp [stretches]
  | cons c s ih =>
    by_cases hc : p c = true
    · rw [stretches, if_pos hc, List.reverse_cons, ← List.map_reverse, List.findSome?_append,
        List.findSome?_map, List.takeWhile_cons_of_pos hc, List.dropWhile_cons_of_pos hc]
      have hlast : [(([] : List Char), c :: s)].findSome? k = none := by simp [hk [] c s hc]
      rw [hlast, Option.or_none]
      exact ih fun t d rest hd => hk (c :: t) d rest hd
    · rw [stretches, if_neg hc, List.takeWhile_cons_of_neg hc, List.dropWhile_cons_of_neg hc]
      simp

/-- A group whose text is an eager stretch of at least one character. -/
theorem first?_group_run (name : String) (p : Char → Bool) (e : Expression)
    (he : ∀ c r, p c = true → e.first? (c :: r) = none) (s : List Char) :
    (seq (group name (seq (char p) (eagerly p))) e).first? s =
      if (s.takeWhile p).isEmpty then none
      else (e.first? (s.dropWhile p)).map fun (c, rest) =>
        (⟨s.takeWhile p ++ c.whole, (name, s.takeWhile p) :: c.groups⟩, rest) := by
  rw [first?_seq, ways_group, ways_seq, List.findSome?_map]
  cases s with
  | nil => rfl
  | cons c s =>
    by_cases hc : p c = true
    · rw [ways_char_of_pos hc, List.flatMap_singleton]
      dsimp only
      rw [ways_eagerly, List.map_map, List.findSome?_map, findSome?_reverse_stretches,
        List.takeWhile_cons_of_pos hc, List.dropWhile_cons_of_pos hc]
      · rfl
      · intro t c rest hc
        simp [he c rest hc]
    · rw [ways_char_of_neg hc, List.takeWhile_cons_of_neg hc]
      rfl

/-- Parts a text at the first `needle`, if only characters of one kind stand before it. -/
def partWithin? (p : Char → Bool) (needle s : List Char) : Option (List Char × List Char) :=
  (splitAt? needle s).filter fun (front, _) => front.all p

section PartWithin

variable {p : Char → Bool} {needle s rest : List Char} {c : Char}

theorem partWithin?_hit (h : after? needle s = some rest) :
    partWithin? p needle s = some ([], rest) := by
  rw [partWithin?, splitAt?_hit h]
  rfl

theorem partWithin?_miss (h : after? needle (c :: s) = none) :
    partWithin? p needle (c :: s) =
      if p c then (partWithin? p needle s).map fun (t, rest) => (c :: t, rest) else none := by
  rw [partWithin?, partWithin?, splitAt?_miss h]
  cases splitAt? needle s with
  | none => simp
  | some parts =>
    obtain ⟨front, rest⟩ := parts
    by_cases hc : p c = true <;> by_cases hfront : front.all p = true <;>
      simp [Option.filter, hc, hfront]

end PartWithin

/-- A lazy stretch goes on to the first place of what follows it. -/
theorem findSome?_stretches_after? (p : Char → Bool) (needle s : List Char) :
    ((stretches p s).findSome? fun (t, r) => (after? needle r).map fun rest => (t, rest)) =
      partWithin? p needle s := by
  induction s with
  | nil =>
    cases h : after? needle [] with
    | some rest => simp [stretches, h, partWithin?_hit h]
    | none => simp [stretches, h, partWithin?, splitAt?, splitFrom]
  | cons c s ih =>
    cases h : after? needle (c :: s) with
    | some rest => simp [stretches, h, partWithin?_hit h]
    | none =>
      rw [partWithin?_miss h, ← ih, stretches, List.findSome?_cons]
      simp only [h, Option.map_none]
      by_cases hc : p c = true
      · rw [if_pos hc, if_pos hc, List.findSome?_map, List.map_findSome?]
        simp only [Function.comp_def, Option.map_map]
      · rw [if_neg hc, if_neg hc, List.findSome?_nil]

/-- A group whose text is a lazy stretch up to a fixed text. -/
theorem Fixed.first?_group_lazily {e : Expression} {needle : List Char} (he : e.Fixed needle)
    (name : String) (p : Char → Bool) (s : List Char) :
    (seq (group name (lazily p)) e).first? s = (partWithin? p needle s).map fun (t, rest) =>
      (⟨t ++ needle, [(name, t)]⟩, rest) := by
  rw [first?_seq, ways_group, ways_lazily, List.findSome?_map, List.findSome?_map,
    ← findSome?_stretches_after?, List.map_findSome?]
  simp only [Function.comp_def, he _, Option.map_map]
  rfl

/-- A group whose text is a lazy stretch of at least one character up to a fixed text. -/
theorem Fixed.first?_group_char_lazily {e : Expression} {needle : List Char}
    (he : e.Fixed needle) (name : String) (p : Char → Bool) (c : Char) (s : List Char) :
    (seq (group name (seq (char p) (lazily p))) e).first? (c :: s) =
      if p c then (partWithin? p needle s).map fun (t, rest) =>
        (⟨c :: t ++ needle, [(name, c :: t)]⟩, rest)
      else none := by
  rw [first?_seq, ways_group, ways_seq, List.findSome?_map]
  by_cases hc : p c = true
  · rw [ways_char_of_pos hc, if_pos hc, List.flatMap_singleton]
    dsimp only
    rw [ways_lazily, List.map_map, List.findSome?_map, ← findSome?_stretches_after?,
      List.map_findSome?]
    simp only [Function.comp_def, he _, Option.map_map]
    rfl
  · rw [ways_char_of_neg hc, if_neg hc]
    rfl

end Expression

end Flashcard
