import Flashcard.Proofs.FieldDirectives

/-!
# Rewriting a text match by match

A pass over the matches of a text keeps what it has written and the byte at which the next gap
begins (`Rewritten`). At each match it copies the gap before it, asks a replacement what to write in
place of the match, and goes on behind it. The replacement may fail, and a gap can be copied only if
its two bytes cut the text between characters (`sliceBytes?`).

A pass stands at each match where the match before it ends, so every gap can be copied
(`Rewritten.foldlM_step_eq`). It writes what stands between the matches and what the replacement
gives for them, or it fails as the replacement first does (`PartedDirective.rewriting_exact`).
-/

namespace Flashcard

/-! ### Bytes of a text -/

/-- The part of a text from one byte up to another. There is none if a byte lies within a character
or behind the end of the text, or if the part would end before it begins. -/
def sliceBytes? (s : String) (start stop : String.Pos.Raw) : Option String := do
  let slice ← s.slice? (← s.pos? start) (← s.pos? stop)
  return slice.copy

theorem pos?_eq_some_iff {s : String} {byte : String.Pos.Raw} {p : s.Pos} :
    s.pos? byte = some p ↔ p.offset = byte := by
  unfold String.pos? String.Slice.pos?
  constructor
  · intro h
    split at h <;> cases h
    rfl
  · rintro rfl
    rw [dif_pos (String.Pos.Raw.isValidForSlice_eq_true_iff.2 p.isValid.toSlice)]
    rfl

/-- Two bytes cut a part out of a text exactly if they are the lengths of what stands before the
part, without the part and with it. -/
theorem sliceBytes?_eq_some_iff {s part : String} {start stop : String.Pos.Raw} :
    sliceBytes? s start stop = some part ↔
      ∃ before behind, s = before ++ (part ++ behind) ∧ start = before.rawEndPos ∧
        stop = (before ++ part).rawEndPos := by
  simp only [sliceBytes?, Option.bind_eq_bind, Option.bind_eq_some_iff, pos?_eq_some_iff]
  constructor
  · rintro ⟨p, rfl, q, rfl, slice, hslice, hcopy⟩
    obtain ⟨hle, hcut⟩ := Option.dite_none_right_eq_some.1 hslice
    cases hcut
    obtain ⟨before, behind, hp, hq⟩ :=
      String.copy_slice_eq_iff_splits.1 ⟨hle, Option.some.inj hcopy⟩
    exact ⟨before, behind, hp.eq_append, hp.offset_eq_rawEndPos, hq.offset_eq_rawEndPos⟩
  · rintro ⟨before, behind, hs, rfl, rfl⟩
    have hp := String.Pos.splits_ofEqAppend hs
    have hq := String.Pos.splits_ofEqAppend (hs.trans String.append_assoc.symm)
    obtain ⟨hle, hcopy⟩ := String.copy_slice_eq_iff_splits.2 ⟨before, behind, hp, hq⟩
    exact ⟨_, hp.offset_eq_rawEndPos, _, hq.offset_eq_rawEndPos, _, dif_pos hle,
      congrArg some hcopy⟩

theorem Cut.bytes_eq_utf8ByteSize (s : List Char) :
    located.bytes s = (String.ofList s).utf8ByteSize := by
  have hfrom (n : Nat) :
      s.foldl (fun n c => n + c.utf8Size) n = n + (String.ofList s).utf8ByteSize := by
    induction s generalizing n with
    | nil => simp
    | cons c s ih => simp [ih, String.ofList_cons, Nat.add_assoc]
  exact (hfrom 0).trans (Nat.zero_add _)

/-! ### Matches where they stand -/

/-- A match where it stands in a text. -/
structure Occurrence where
  /-- The byte at which the match begins. -/
  start : String.Pos.Raw
  /-- The byte behind the match. -/
  stop : String.Pos.Raw
  captures : Captures

namespace Cut

/-- The matches behind the first `start` bytes of a text, each after the gap before it. -/
def placeFrom (start : Nat) (hits : List (List Char × Captures)) : List (List Char × Occurrence) :=
  (hits.zip (located.go Captures.whole start hits)).map fun ((gap, _), (here, m)) =>
    (gap, ⟨⟨here⟩, ⟨here + located.bytes m.whole⟩, m⟩)

/-- The cut with each match where it stands in the text. -/
def place (c : Cut Captures) : Cut Occurrence := ⟨placeFrom 0 c.hits, c.rest⟩

theorem placeFrom_cons (before : String) (gap : List Char) (m : Captures)
    (hits : List (List Char × Captures)) :
    placeFrom before.utf8ByteSize ((gap, m) :: hits) =
      (gap, ⟨(before ++ String.ofList gap).rawEndPos,
        (before ++ String.ofList (gap ++ m.whole)).rawEndPos, m⟩) ::
        placeFrom (before ++ String.ofList (gap ++ m.whole)).utf8ByteSize hits := by
  simp [placeFrom, located.go, bytes_eq_utf8ByteSize, String.rawEndPos, Nat.add_assoc,
    String.ofList_append]

theorem map_captures_placeFrom (before : String) (hits : List (List Char × Captures)) :
    (placeFrom before.utf8ByteSize hits).map (fun (gap, m) => (gap, m.captures)) = hits := by
  induction hits generalizing before with
  | nil => rfl
  | cons hit hits ih => rw [placeFrom_cons, List.map_cons, ih]

theorem place_eq (c : Cut Captures) :
    (⟨c.place.hits.map fun (gap, m) => (gap, m.captures), c.place.rest⟩ : Cut Captures) = c :=
  congrArg (fun hits => (⟨hits, c.rest⟩ : Cut Captures)) (map_captures_placeFrom "" c.hits)

theorem place_injective {c other : Cut Captures} (h : other.place = c.place) : other = c := by
  rw [← other.place_eq, h, c.place_eq]

theorem fill_place (g : Captures → List Char) (c : Cut Captures) :
    (c.place.fill fun m => g m.captures) = c.fill g := by
  conv_rhs => rw [← c.place_eq]
  rw [fill, fill, List.flatMap_map]

section Behind

variable {haystack before : String} {hits : List (List Char × Captures)} {rest : List Char}

/-- What stands before a match, with the match, stands before what is left of the text. -/
theorem eq_append_of_fill_cons {gap : List Char} {m : Captures}
    (h : haystack = before ++ String.ofList (fill Captures.whole ⟨(gap, m) :: hits, rest⟩)) :
    haystack = before ++ String.ofList (gap ++ m.whole) ++
      String.ofList (fill Captures.whole ⟨hits, rest⟩) := by
  rw [h, fill_cons _ gap m ⟨hits, rest⟩]
  simp [String.ofList_append, String.append_assoc]

/-- Each match is what its bytes cut out of the text. -/
theorem sliceBytes?_of_mem_placeFrom
    (h : haystack = before ++ String.ofList (fill Captures.whole ⟨hits, rest⟩))
    {hit : List Char × Occurrence} (hmem : hit ∈ placeFrom before.utf8ByteSize hits) :
    sliceBytes? haystack hit.2.start hit.2.stop = some (String.ofList hit.2.captures.whole) := by
  induction hits generalizing before with
  | nil => cases hmem
  | cons first hits ih =>
    obtain ⟨gap, m⟩ := first
    have hbehind := eq_append_of_fill_cons h
    rw [placeFrom_cons] at hmem
    obtain rfl | hmem := List.mem_cons.1 hmem
    · refine sliceBytes?_eq_some_iff.2 ⟨before ++ String.ofList gap,
        String.ofList (fill Captures.whole ⟨hits, rest⟩), ?_, rfl, ?_⟩
      · rw [hbehind]
        simp only [String.ofList_append, String.append_assoc]
      · simp only [String.ofList_append, String.append_assoc]
    · exact ih hbehind hmem

end Behind

/-! ### Filling a cut with texts that may fail -/

variable {α : Type}

/-- Puts `f a` in place of every match `a`, up to the first one for which `f` fails. -/
def tryFill (f : α → Except RenderError String) (c : Cut α) : Except RenderError String := do
  let parts ← c.hits.mapM fun (gap, a) => do return gap ++ (← f a).toList
  return String.ofList (parts.flatten ++ c.rest)

variable {f : α → Except RenderError String}

theorem tryFill_cons (gap : List Char) (a : α) (hits : List (List Char × α)) (rest : List Char) :
    tryFill f ⟨(gap, a) :: hits, rest⟩ = (f a).bind fun text =>
      (tryFill f ⟨hits, rest⟩).map (String.ofList gap ++ text ++ ·) := by
  simp only [tryFill, List.mapM_cons]
  cases f a with
  | error e => rfl
  | ok text =>
    simp only [bind, Except.bind, pure, Except.pure]
    cases hits.mapM (m := Except RenderError) _ with
    | error e => rfl
    | ok parts => simp [Except.map, String.append_assoc]

theorem tryFill_eq_ok {g : α → String} {c : Cut α} (h : ∀ hit ∈ c.hits, f hit.2 = .ok (g hit.2)) :
    c.tryFill f = .ok (String.ofList (c.fill fun a => (g a).toList)) := by
  obtain ⟨hits, rest⟩ := c
  induction hits with
  | nil => rfl
  | cons hit hits ih =>
    obtain ⟨gap, a⟩ := hit
    obtain ⟨ha, hhits⟩ := List.forall_mem_cons.1 h
    rw [tryFill_cons, ha, Except.bind, ih hhits, fill_cons _ gap a ⟨hits, rest⟩]
    simp [Except.map, String.append_assoc]

theorem tryFill_eq_error {before after : List (List Char × α)} {hit : List Char × α}
    {error : RenderError} (hbefore : ∀ earlier ∈ before, ∃ text, f earlier.2 = .ok text)
    (hhit : f hit.2 = .error error) (rest : List Char) :
    tryFill f ⟨before ++ hit :: after, rest⟩ = .error error := by
  induction before with
  | nil => rw [List.nil_append, tryFill_cons, hhit, Except.bind]
  | cons earlier before ih =>
    obtain ⟨⟨text, htext⟩, hbefore⟩ := List.forall_mem_cons.1 hbefore
    rw [List.cons_append, tryFill_cons, htext, Except.bind, ih hbefore, Except.map]

theorem tryFill_place (g : Captures → Except RenderError String) (c : Cut Captures) :
    (c.place.tryFill fun m => g m.captures) = c.tryFill g := by
  conv_rhs => rw [← c.place_eq]
  simp only [tryFill, List.mapM_map]
  rfl

theorem fill_congr {g h : α → List Char} {c : Cut α} (hgh : ∀ hit ∈ c.hits, g hit.2 = h hit.2) :
    c.fill g = c.fill h := by
  rw [fill, fill, List.flatMap_congr fun hit hhit => congrArg (hit.1 ++ ·) (hgh hit hhit)]

end Cut

/-! ### One pass over the matches -/

/-- What is to be written in place of a match. A replacement is told where the match stands, so that
it can treat each match of a text in its own way. -/
abbrev Replacement := Occurrence → Except RenderError String

/-- How far a pass has come. -/
structure Rewritten where
  /-- What is written so far. -/
  out : String
  /-- The byte at which the next gap begins. -/
  last : String.Pos.Raw

namespace Rewritten

/-- Copies the gap before a match and writes in place of the match. -/
def step (haystack : String) (f : Replacement) (r : Rewritten) (m : Occurrence) :
    ExceptT RenderError Option Rewritten := do
  let _ ← m.captures.read "replacement" "0"
  let gap ← sliceBytes? haystack r.last m.start
  let text ← f m
  return ⟨r.out ++ gap ++ text, m.stop⟩

/-- Copies what stands behind the last match. -/
def finish (haystack : String) (r : Rewritten) : ExceptT RenderError Option String := do
  let rest ← sliceBytes? haystack r.last haystack.rawEndPos
  return r.out ++ rest

variable {haystack before out : String} {f : Replacement}

/-- A pass that stands behind `before` copies the gap up to the next match. -/
theorem step_eq {gap rest : String} {m : Occurrence} (h : haystack = before ++ (gap ++ rest))
    (hm : m.start = (before ++ gap).rawEndPos) :
    (step haystack f ⟨out, before.rawEndPos⟩ m).run =
      some ((f m).map fun text => ⟨out ++ gap ++ text, m.stop⟩) := by
  have hwhole : m.captures.read "replacement" "0" = .ok (String.ofList m.captures.whole) := rfl
  have hgap : sliceBytes? haystack before.rawEndPos m.start = some gap :=
    sliceBytes?_eq_some_iff.2 ⟨before, rest, h, rfl, hm⟩
  rw [step, hwhole, hgap]
  cases f m <;> rfl

theorem finish_eq {rest : String} (h : haystack = before ++ rest) :
    (finish haystack ⟨out, before.rawEndPos⟩).run = some (.ok (out ++ rest)) := by
  have hrest : sliceBytes? haystack before.rawEndPos haystack.rawEndPos = some rest :=
    sliceBytes?_eq_some_iff.2 ⟨before, "", by simp [h], rfl, by rw [h]⟩
  rw [finish, hrest]
  rfl

/-- A pass that stands behind `before` fills what is left of the text. -/
theorem foldlM_step_eq {hits : List (List Char × Captures)} {rest : List Char}
    (h : haystack = before ++ String.ofList (Cut.fill Captures.whole ⟨hits, rest⟩)) :
    (((Cut.placeFrom before.utf8ByteSize hits).map Prod.snd).foldlM (step haystack f)
        ⟨out, before.rawEndPos⟩ >>= finish haystack).run =
      some ((Cut.tryFill f ⟨Cut.placeFrom before.utf8ByteSize hits, rest⟩).map (out ++ ·)) := by
  -- After each match the pass stands behind `before` with the gap and the match added to it.
  induction hits generalizing before out with
  | nil => exact finish_eq h
  | cons hit hits ih =>
    obtain ⟨gap, m⟩ := hit
    have hbehind := Cut.eq_append_of_fill_cons h
    have hgap : haystack = before ++ (String.ofList gap ++
        String.ofList (m.whole ++ Cut.fill Captures.whole ⟨hits, rest⟩)) := by
      simp [hbehind, String.append_assoc]
    rw [Cut.placeFrom_cons, List.map_cons, List.foldlM_cons, Cut.tryFill_cons, bind_assoc,
      ExceptT.run_bind, step_eq hgap rfl]
    cases f _ with
    | error e => rfl
    | ok text =>
      refine (ih hbehind).trans ?_
      cases Cut.tryFill f _ <;> simp [Except.map, Except.bind, String.append_assoc]

end Rewritten

namespace Pattern

/-- The matches of a text where they stand, with the gaps around them. -/
def occurrences (p : Pattern Captures) (haystack : String) : Cut Occurrence :=
  (p.cut haystack.toList).place

/-- Rewrites a text in one pass over its matches. There is no outcome at all if a gap cannot be
copied. -/
def rewriteMatches (p : Pattern Captures) (f : Replacement) (haystack : String) :
    ExceptT RenderError Option String := do
  let found := (p.occurrences haystack).hits.map Prod.snd
  let rewritten ← found.foldlM (Rewritten.step haystack f) ⟨"", 0⟩
  rewritten.finish haystack

variable {p : Pattern Captures} (hp : p.text = Captures.whole) {haystack : String}
include hp

theorem fill_whole_occurrences :
    ((p.occurrences haystack).fill fun m => m.captures.whole) = haystack.toList := by
  rw [occurrences, Cut.fill_place, ← hp, p.fill_text_cut]

theorem eq_append_fill_cut :
    haystack = "" ++ String.ofList ((p.cut haystack.toList).fill Captures.whole) := by
  rw [← hp, p.fill_text_cut, String.ofList_toList, String.empty_append]

theorem sliceBytes?_of_mem_occurrences {hit : List Char × Occurrence}
    (h : hit ∈ (p.occurrences haystack).hits) :
    sliceBytes? haystack hit.2.start hit.2.stop = some (String.ofList hit.2.captures.whole) :=
  Cut.sliceBytes?_of_mem_placeFrom (eq_append_fill_cut hp) h

/-- Every gap can be copied, and a pass fills the cut of the text. -/
theorem rewriteMatches_eq (f : Replacement) :
    (p.rewriteMatches f haystack).run = some ((p.occurrences haystack).tryFill f) := by
  have hempty : ("" ++ ·) = (id : String → String) := funext fun _ => String.empty_append
  refine (Rewritten.foldlM_step_eq (eq_append_fill_cut hp)).trans ?_
  rw [hempty, Except.map_id]
  rfl

theorem rewriteMatches_eq_ok {f : Replacement} {g : Occurrence → String}
    (h : ∀ hit ∈ (p.occurrences haystack).hits, f hit.2 = .ok (g hit.2)) :
    (p.rewriteMatches f haystack).run =
      some (.ok (String.ofList ((p.occurrences haystack).fill fun m => (g m).toList))) := by
  rw [rewriteMatches_eq hp, Cut.tryFill_eq_ok h]

theorem rewriteMatches_eq_error {f : Replacement} {before after : List (List Char × Occurrence)}
    {hit : List Char × Occurrence} {error : RenderError}
    (hhits : (p.occurrences haystack).hits = before ++ hit :: after)
    (hbefore : ∀ earlier ∈ before, ∃ text, f earlier.2 = .ok text)
    (hhit : f hit.2 = .error error) :
    (p.rewriteMatches f haystack).run = some (.error error) := by
  have hfail : Cut.tryFill f ⟨before ++ hit :: after, (p.occurrences haystack).rest⟩ =
      .error error := Cut.tryFill_eq_error hbefore hhit _
  rw [← hhits] at hfail
  rw [rewriteMatches_eq hp, hfail]

/-- A text stays as it is if each match is written back. -/
theorem rewriteMatches_whole :
    (p.rewriteMatches (fun m => .ok (String.ofList m.captures.whole)) haystack).run =
      some (.ok haystack) := by
  rw [rewriteMatches_eq_ok hp (g := fun m => String.ofList m.captures.whole) fun _ _ => rfl]
  simp only [String.toList_ofList, fill_whole_occurrences hp, String.ofList_toList]

/-- A pass whose replacement never fails replaces every match. -/
theorem rewriteMatches_total (g : Captures → String) :
    (p.rewriteMatches (fun m => .ok (g m.captures)) haystack).run =
      some (.ok (p.replace g haystack)) := by
  rw [rewriteMatches_eq_ok hp (g := fun m => g m.captures) fun _ _ => rfl, occurrences,
    Cut.fill_place fun m => (g m).toList]
  rfl

/-- Where a replacement does not ask where a match stands, a pass gives what is read by groups. -/
theorem rewriteMatches_captures (f : Captures → Except RenderError String) (haystack : String) :
    (p.rewriteMatches (fun m => f m.captures) haystack).run =
      some (replaceMatches p f haystack) := by
  rw [rewriteMatches_eq hp, occurrences, Cut.tryFill_place]
  rfl

end Pattern

/-! ### The directives that are rewritten match by match -/

/-- A directive whose parts decide what stands in its place. -/
inductive PartedDirective where
  | deletion
  | conditional (kind : Section) (name : String)

namespace PartedDirective

def expression : PartedDirective → Expression
  | deletion => Deletion.expression
  | conditional kind name => kind.expressionFor name

theorem consumes_expression (directive : PartedDirective) :
    directive.expression.consumes = true := by
  cases directive <;> rfl

def pattern (directive : PartedDirective) : Pattern Captures :=
  directive.expression.pattern directive.consumes_expression

/-- Whether the directive begins at the front of a text. -/
def StartsAt : PartedDirective → List Char → Prop
  | deletion => Deletion.StartsAt
  | conditional kind name => kind.StartsAt name

/-- Whether the directive at the front of a text shows these groups, with `rest` behind it. -/
def ReadsAt : PartedDirective → List Char → Captures → List Char → Prop
  | deletion, s, m, rest => ∃ d, Deletion.ReadsAt s d rest ∧ d.captures = m
  | conditional kind name, s, m, rest =>
    ∃ body, kind.ReadsAt name s body rest ∧ kind.captures name body = m

variable {directive : PartedDirective}

theorem startsAt_iff {s : List Char} :
    directive.StartsAt s ↔ directive.pattern.matchAt s ≠ none := by
  cases directive with
  | deletion =>
    change _ ↔ Deletion.matcher.matchAt s ≠ none
    rw [Deletion.matchAt_matcher, ne_eq, Option.map_eq_none_iff]
    exact Deletion.startsAt_iff
  | conditional kind name =>
    change _ ↔ (kind.expressionFor name).first? s ≠ none
    rw [kind.first?_expressionFor, ne_eq, Option.map_eq_none_iff]
    exact Section.startsAt_iff

theorem readsAt_iff {s rest : List Char} {m : Captures} :
    directive.ReadsAt s m rest ↔ directive.pattern.matchAt s = some (m, rest) := by
  cases directive with
  | deletion =>
    change _ ↔ Deletion.matcher.matchAt s = some (m, rest)
    simp [Deletion.matchAt_matcher, ReadsAt, Deletion.readsAt_iff]
  | conditional kind name =>
    change _ ↔ (kind.expressionFor name).first? s = some (m, rest)
    simp [kind.first?_expressionFor, ReadsAt, Section.readsAt_iff]

theorem leftmost_iff_occurrences {haystack : String} {c : Cut Captures} :
    Leftmost directive.StartsAt directive.ReadsAt haystack.toList c ↔
      c.place = directive.pattern.occurrences haystack := by
  rw [directive.pattern.leftmost_iff (fun _ => startsAt_iff) fun _ _ _ => readsAt_iff]
  exact ⟨fun h => congrArg Cut.place h.symm, fun h => (Cut.place_injective h).symm⟩

end PartedDirective

/-! ### What the renderer rewrites -/

/-- What becomes of a deletion in the card that asks for the index `target`: one of this index stays
as it stands, and any other gives way to its answer. -/
def Narrowed.revealMatch (target : String) (m : Occurrence) : Except RenderError String := do
  let raw ← m.captures.read "cloze marker" "0"
  let d ← Deletion.ofCaptures m.captures
  return if d.index == target then raw else d.answer

theorem Narrowed.rewriteMatches_revealMatch (target value : String) :
    (PartedDirective.deletion.pattern.rewriteMatches (revealMatch target) value).run =
      some (.ok (reveal target value)) := by
  have hpass := Pattern.rewriteMatches_captures (p := Deletion.matcher) rfl
    (fun c => revealMatch target ⟨0, 0, c⟩) value
  refine hpass.trans (congrArg some ?_)
  refine replaceMatches_eq Deletion.matchAt_matcher (fun d => ?_) value
  have hraw : d.captures.read "cloze marker" "0" = .ok (String.ofList d.text) := rfl
  rw [revealMatch, hraw, Deletion.ofCaptures_captures]
  rfl

/-- A value whose deletions all have the index that a card asks for stays as it is. -/
theorem Narrowed.reveal_eq_self {target value : String}
    (h : ∀ d ∈ Deletion.findAll value, d.index = target) : reveal target value = value := by
  have hkeep : ∀ hit ∈ (Deletion.pattern.cut value.toList).hits,
      (if hit.2.index == target then String.ofList hit.2.text else hit.2.answer).toList =
        Deletion.pattern.text hit.2 := by
    intro hit hhit
    rw [if_pos (beq_iff_eq.2 (h hit.2 (List.mem_map_of_mem hhit))), String.toList_ofList]
    rfl
  rw [reveal, Pattern.replace, Cut.fill_congr hkeep, Pattern.fill_text_cut, String.ofList_toList]

/-- What becomes of a deletion at a slot of its field. -/
def FieldView.showMatch (field : FieldView) (m : Occurrence) : Except RenderError String := do
  return field.showDeletion (← Deletion.ofCaptures m.captures)

theorem FieldView.rewriteMatches_showMatch (field : FieldView) :
    (PartedDirective.deletion.pattern.rewriteMatches field.showMatch field.value).run =
      some (.ok field.clozeMarkup) := by
  have hpass := Pattern.rewriteMatches_captures (p := Deletion.matcher) rfl
    (fun c => field.showMatch ⟨0, 0, c⟩) field.value
  exact hpass.trans (congrArg some field.tryMarkup_eq)

theorem Step.rewriteMatches_body {kind : Section} {field : FieldView} (template : String)
    (h : kind.shows field.value = true) :
    ((PartedDirective.conditional kind field.name).pattern.rewriteMatches
        (fun m => m.captures.read "section" "body") template).run =
      some (conditional kind field template) := by
  rw [Pattern.rewriteMatches_captures rfl (Captures.read "section" "body"),
    ← tryConditional_eq, tryConditional, if_pos h]
  rfl

/-- A pass over the matches of a directive, which are the leftmost ones, writes in place of each
what the replacement gives and keeps the text around them, or it fails as the replacement does at
the first match for which it fails. So it writes back a text whose matches stay, it replaces every
match if the replacement never fails, and the renderer's texts are those that such passes give. -/
theorem PartedDirective.rewriting_exact :
    (∀ (directive : PartedDirective) (haystack : String),
      let found := directive.pattern.occurrences haystack
      (∀ c : Cut Captures, Leftmost directive.StartsAt directive.ReadsAt haystack.toList c ↔
        c.place = found) ∧
      (∀ hit ∈ found.hits,
        sliceBytes? haystack hit.2.start hit.2.stop = some (String.ofList hit.2.captures.whole)) ∧
      (found.fill fun m => m.captures.whole) = haystack.toList ∧
      (∀ (f : Replacement) (g : Occurrence → String),
        (∀ hit ∈ found.hits, f hit.2 = .ok (g hit.2)) →
          (directive.pattern.rewriteMatches f haystack).run =
            some (.ok (String.ofList (found.fill fun m => (g m).toList)))) ∧
      (∀ (f : Replacement) before hit after error, found.hits = before ++ hit :: after →
        (∀ earlier ∈ before, ∃ text, f earlier.2 = .ok text) → f hit.2 = .error error →
          (directive.pattern.rewriteMatches f haystack).run = some (.error error)) ∧
      (directive.pattern.rewriteMatches (fun m => .ok (String.ofList m.captures.whole))
        haystack).run = some (.ok haystack) ∧
      ∀ g : Captures → String,
        (directive.pattern.rewriteMatches (fun m => .ok (g m.captures)) haystack).run =
          some (.ok (directive.pattern.replace g haystack))) ∧
    (∀ target value : String,
      (PartedDirective.deletion.pattern.rewriteMatches (Narrowed.revealMatch target) value).run =
        some (.ok (Narrowed.reveal target value)) ∧
      ((∀ d ∈ Deletion.findAll value, d.index = target) → Narrowed.reveal target value = value)) ∧
    (∀ field : FieldView,
      (PartedDirective.deletion.pattern.rewriteMatches field.showMatch field.value).run =
        some (.ok field.clozeMarkup)) ∧
    ∀ (kind : Section) (field : FieldView) (template : String), kind.shows field.value = true →
      ((PartedDirective.conditional kind field.name).pattern.rewriteMatches
          (fun m => m.captures.read "section" "body") template).run =
        some (Step.conditional kind field template) := by
  refine ⟨fun directive haystack => ?_, fun target value => ?_,
    FieldView.rewriteMatches_showMatch, fun _ _ => Step.rewriteMatches_body⟩
  · have hp : directive.pattern.text = Captures.whole := rfl
    exact ⟨fun c => leftmost_iff_occurrences,
      fun hit => Pattern.sliceBytes?_of_mem_occurrences hp,
      Pattern.fill_whole_occurrences hp,
      fun f g => Pattern.rewriteMatches_eq_ok hp,
      fun f before hit after error => Pattern.rewriteMatches_eq_error hp,
      Pattern.rewriteMatches_whole hp,
      Pattern.rewriteMatches_total hp⟩
  · exact ⟨Narrowed.rewriteMatches_revealMatch target value, Narrowed.reveal_eq_self⟩

/-- Two deletions side by side, the first with characters of two bytes before it and in it. A
replacement that fails for the second of them stops the pass at its twelfth byte. -/
theorem PartedDirective.rewriting_exact_side_by_side :
    let value := "é\x7b\x7bc1::é\x7d\x7d\x7b\x7bC2::b\x7d\x7d!"
    let first : Replacement := fun m =>
      if m.start.byteIdx = 2 then .ok "x" else .error (.ordinalOutOfRange m.start.byteIdx)
    (PartedDirective.deletion.pattern.rewriteMatches first value).run =
        some (.error (.ordinalOutOfRange 12)) ∧
      (PartedDirective.deletion.pattern.rewriteMatches (fun m => .ok (toString m.stop.byteIdx))
        value).run = some (.ok "é1221!") := by
  intro value first
  have hhits : (Deletion.pattern.cut value.toList).hits =
      [(['é'], ⟨false, "1", "é", none⟩), ([], ⟨true, "2", "b", none⟩)] := by
    decide +kernel
  have hrest : (Deletion.pattern.cut value.toList).rest = ['!'] := by decide +kernel
  have hcut := Pattern.cut_renamed Deletion.matchAt_matcher value.toList
  rw [hhits, hrest] at hcut
  have hfound : PartedDirective.deletion.pattern.occurrences value =
      ⟨[(['é'], ⟨⟨2⟩, ⟨12⟩, Deletion.captures ⟨false, "1", "é", none⟩⟩),
        ([], ⟨⟨12⟩, ⟨21⟩, Deletion.captures ⟨true, "2", "b", none⟩⟩)], ['!']⟩ :=
    congrArg Cut.place hcut
  obtain ⟨-, -, -, hok, herror, -⟩ := PartedDirective.rewriting_exact.1 .deletion value
  rw [hfound] at hok herror
  constructor
  · exact herror first [_] _ [] _ rfl (List.forall_mem_singleton.2 ⟨"x", rfl⟩) rfl
  · exact hok _ (fun m => toString m.stop.byteIdx) fun _ _ => rfl

end Flashcard
