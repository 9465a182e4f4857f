import Flashcard.Proofs.Directive.Opening
import Flashcard.Proofs.FieldReading

/-!
# Openings of slots

The openings of a slot are those of its tag. A step that puts texts without openings in place of
directives makes no openings (`SlotStep`), so a slot that has been filled never comes back.

`HasSlot` says that a slot stands in a text. A scan for other tags leaves it where it is
(`HasSlot.rewrite`), and a section either keeps it or takes an opening away
(`HasSlot.decideSections`).
-/

namespace Flashcard

/-- Whether a slot of the field `name` stands at the front of a text, or could stand there. -/
def opensAt (name : String) : List Char → Bool
  | [] => false
  | c :: s => c == '{' && agrees ('{' :: (Slot.inner name ++ closeBraces)) s

/-- The number of openings in a text. -/
def openings (name : String) : List Char → Nat
  | [] => 0
  | c :: s => (opensAt name (c :: s)).toNat + openings name s

/-- Whether a text holds no opening, whatever follows it. -/
def SlotFree (name : String) (w : List Char) : Prop := ∀ s ∈ w.tails, opensAt name s = false

instance (name : String) (w : List Char) : Decidable (SlotFree name w) :=
  inferInstanceAs (Decidable (∀ s ∈ w.tails, _))

theorem opensAt_eq (name : String) : opensAt name = opensTag (Slot.inner name) := by
  funext s
  cases s <;> rfl

theorem openings_eq (name : String) (t : List Char) :
    openings name t = tagOpenings (Slot.inner name) t := by
  induction t with
  | nil => rfl
  | cons c t ih => rw [openings, tagOpenings_cons, opensAt_eq, ih]

theorem slotFree_iff {name : String} {w : List Char} :
    SlotFree name w ↔ TagFree (Slot.inner name) w := by
  rw [SlotFree, TagFree, opensAt_eq]

theorem slotFree_of_openBrace_notMem (name : String) {w : List Char} (h : '{' ∉ w) :
    SlotFree name w := slotFree_iff.2 (tagFree_of_openBrace_notMem _ h)

/-- Whether a slot of the field `name` stands in a text. -/
def HasSlot (name : String) (t : List Char) : Prop :=
  ∃ before x behind, foldText x = foldText (Slot.inner name) ∧ t = before ++ (tag x ++ behind)

theorem hasSlot_of_mem_fields {template name : String} (h : name ∈ Slot.fields template) :
    HasSlot name template.toList := by
  obtain ⟨spelling, before, behind, hspelling, heq⟩ := Slot.exists_tag_of_mem_fields h
  refine ⟨before, spelling ++ name.toList, behind, ?_, heq⟩
  rw [foldText_append, hspelling, Slot.inner, foldText_append, Slot.foldText_slotKeyword]

/-- The pattern of a field's slots finds something exactly where one of the slots stands. -/
theorem Slot.patternFor_found_ne_nil_iff {name : String} {t : List Char} :
    (Slot.patternFor name).found t ≠ [] ↔ HasSlot name t := by
  rw [Pattern.found_ne_nil_iff]
  constructor
  · rintro ⟨before, a, rest, hmatch, rfl⟩
    obtain ⟨x, hx, -, heq⟩ := Slot.readFor?_eq_some_iff.1 hmatch
    exact ⟨before, x, rest, hx, by rw [heq]⟩
  · rintro ⟨before, x, rest, hx, rfl⟩
    have htext : (Slot.patternFor name).text (String.ofList (tag x)) = tag x :=
      String.toList_ofList
    exact ⟨before, String.ofList (tag x), rest,
      Slot.readFor?_eq_some_iff.2 ⟨x, hx, rfl, by rw [htext]⟩, by rw [htext]⟩

namespace HasSlot

variable {name : String} {s t : List Char}

theorem append_left (h : HasSlot name t) (s : List Char) : HasSlot name (s ++ t) := by
  obtain ⟨before, x, behind, hx, rfl⟩ := h
  exact ⟨s ++ before, x, behind, hx, by simp⟩

theorem append_right (h : HasSlot name s) (t : List Char) : HasSlot name (s ++ t) := by
  obtain ⟨before, x, behind, hx, rfl⟩ := h
  exact ⟨before, x, behind ++ t, hx, by simp⟩

theorem not_nil : ¬ HasSlot name [] := by
  rintro ⟨before, x, behind, -, heq⟩
  simp [tag, openBraces] at heq

/-- Taking a slot away takes an opening away. -/
theorem openings_lt_append (h : HasSlot name s) (t : List Char) :
    tagOpenings (Slot.inner name) t < tagOpenings (Slot.inner name) (s ++ t) := by
  obtain ⟨before, x, behind, hx, rfl⟩ := h
  have hslot := tagOpenings_tag_append _ hx (behind ++ t)
  have hbehind := tagOpenings_le_append (Slot.inner name) behind t
  have hbefore := tagOpenings_le_append (Slot.inner name) before (tag x ++ (behind ++ t))
  simp only [List.append_assoc]
  omega

variable (hfree : BraceFree name.toList)
include hfree

/-- Replacing other tags leaves a slot where it is. -/
theorem rewrite {α : Type} {p : Pattern α} (hp : p.MatchesTags) (f : α → List Char)
    (h : HasSlot name t)
    (hmiss : ∀ x t, foldText x = foldText (Slot.inner name) → p.matchAt (tag x ++ t) = none) :
    HasSlot name (p.rewrite f t) := by
  obtain ⟨before, x, behind, hx, rfl⟩ := h
  have hxfree := (Slot.braceFree_inner hfree).of_foldText_eq hx
  obtain ⟨u, hu⟩ := Pattern.exists_rewrite_append_braces hp f before
    (x ++ '}' :: '}' :: behind)
  rw [← tag_append] at hu
  exact ⟨u, x, p.rewrite f behind, hx,
    by rw [hu, Pattern.rewrite_tag_miss hp.opens f hxfree (hmiss x behind hx)]⟩

/-- A slot around another tag stands before it or behind it. -/
theorem of_append_tag {y : List Char} (hy : BraceFree y)
    (hne : foldText y ≠ foldText (Slot.inner name)) (h : HasSlot name (s ++ (tag y ++ t))) :
    HasSlot name s ∨ HasSlot name t := by
  obtain ⟨before, x, behind, hx, heq⟩ := h
  have hxfree := (Slot.braceFree_inner hfree).of_foldText_eq hx
  have hother (u v : List Char) : tag x ++ u ≠ tag y ++ v := by
    intro hxy
    obtain ⟨rfl, -⟩ := (tag_append_inj hxfree hy).1 hxy
    exact hne hx
  obtain ⟨v, rfl, hv⟩ | ⟨v, rfl, hv⟩ := List.append_eq_append_iff.1 heq
  · -- The other tag stands further left.
    cases v with
    | nil => exact absurd hv.symm (hother _ _)
    | cons c v =>
      rw [tag_append x] at hv
      obtain ⟨u, -, rfl⟩ := exists_eq_tag_append hy (List.cons_ne_nil c v) hv.symm
      rw [← tag_append]
      exact .inr ⟨u, x, behind, hx, rfl⟩
  · cases v with
    | nil => exact absurd hv (hother _ _)
    | cons c v =>
      rw [tag_append y] at hv
      obtain ⟨u, hu, -⟩ := exists_eq_tag_append hxfree (List.cons_ne_nil c v) hv.symm
      exact .inl ⟨before, x, u, hx, by rw [hu]⟩

end HasSlot

section Section

variable {name : String} {field : FieldView} (hfield : BraceFree field.name.toList)
  (kind : Section)

theorem foldText_sign_ne {c : Char} (hc : c ∈ TemplateTree.sectionSigns) (x : List Char) :
    foldText (c :: x) ≠ foldText (Slot.inner name) := by
  intro heq
  simp only [TemplateTree.sectionSigns, List.mem_cons, List.not_mem_nil, or_false] at hc
  rw [Slot.inner, slotKeyword, List.cons_append, foldText_cons, foldText_cons,
    List.cons.injEq] at heq
  obtain rfl | rfl | rfl := hc <;> exact absurd heq.1 (by decide)

/-- A match of a section begins and ends with its tags. -/
theorem eq_of_matchAt_section {s rest : List Char} {body : String}
    (h : (kind.patternFor field.name).matchAt s = some (body, rest)) :
    s = tag (kind.sign :: field.name.toList) ++ (body.toList ++
      (tag ('/' :: field.name.toList) ++ rest)) := by
  rw [(kind.patternFor field.name).matchAt_eq h]
  simp [Section.patternFor, Pattern.between, Section.openTag, Section.closeTag, tag]

/-- A section loses its closing tag, and its body as well if it is hidden. -/
theorem tagOpenings_body_le (field : FieldView) (inner : List Char) (body : String)
    {u rest : List Char} {n : Nat}
    (h : tagOpenings inner u + n ≤ tagOpenings inner rest) :
    tagOpenings inner ((if kind.shows field.value then body else "").toList ++ u) + n ≤
      tagOpenings inner (body.toList ++ (tag ('/' :: field.name.toList) ++ rest)) := by
  have hclose := tagOpenings_le_append inner (tag ('/' :: field.name.toList)) rest
  have hbody := tagOpenings_append_le inner
    (h.trans (by rw [tag_append] at hclose; exact hclose)) body.toList
  rw [← tag_append] at hbody
  by_cases hshows : kind.shows field.value
  · rw [if_pos hshows]
    omega
  · have hhidden := tagOpenings_le_append inner body.toList u
    rw [if_neg hshows, String.toList_empty, List.nil_append]
    omega

theorem tagOpenings_section_hit (inner : List Char) {s rest : List Char} {body : String}
    (hmatch : (kind.patternFor field.name).matchAt s = some (body, rest)) (u : List Char) (n : Nat)
    (h : tagOpenings inner u + n ≤ tagOpenings inner rest) :
    tagOpenings inner ((if kind.shows field.value then body else "").toList ++ u) + n ≤
      tagOpenings inner s := by
  have hbody := tagOpenings_body_le kind field inner body h
  rw [eq_of_matchAt_section kind hmatch]
  exact hbody.trans (tagOpenings_le_append inner _ _)

theorem tagOpenings_decideSections_le (inner t : List Char) :
    tagOpenings inner (field.decideSections kind t) ≤ tagOpenings inner t := by
  have hle := tagOpenings_rewrite_le inner (k := 0) (kind.patternFor_opens field.name)
    (fun body => (if kind.shows field.value then body else "").toList)
    (fun _ _ _ hmatch u n h => tagOpenings_section_hit kind inner hmatch u n h) t
  rw [Nat.zero_mul, Nat.add_zero] at hle
  exact hle

/-- A section that is decided loses its opening tag. -/
theorem tagOpenings_decideSections_lt {t : List Char}
    (hfound : (kind.patternFor field.name).found t ≠ []) :
    tagOpenings (kind.sign :: field.name.toList) (field.decideSections kind t) <
      tagOpenings (kind.sign :: field.name.toList) t := by
  have hle := tagOpenings_rewrite_le (kind.sign :: field.name.toList) (k := 1)
    (kind.patternFor_opens field.name)
    (fun body => (if kind.shows field.value then body else "").toList)
    (fun s body rest hmatch u n h => ?_) t
  · have hlength := List.length_pos_iff.2 hfound
    rw [FieldView.decideSections]
    omega
  · have hbody := tagOpenings_body_le kind field (kind.sign :: field.name.toList) body h
    have hopen := tagOpenings_tag_append (kind.sign :: field.name.toList) rfl
      (body.toList ++ (tag ('/' :: field.name.toList) ++ rest))
    rw [← eq_of_matchAt_section kind hmatch] at hopen
    omega

/-- A slot in a section is an opening that goes with the section. -/
theorem tagOpenings_rest_lt_of_hasSlot {s rest : List Char} {body : String}
    (hmatch : (kind.patternFor field.name).matchAt s = some (body, rest))
    (hslot : HasSlot name body.toList) :
    tagOpenings (Slot.inner name) rest < tagOpenings (Slot.inner name) s := by
  have hbody := hslot.openings_lt_append (tag ('/' :: field.name.toList) ++ rest)
  have hclose := tagOpenings_le_append (Slot.inner name) (tag ('/' :: field.name.toList)) rest
  have hopen := tagOpenings_le_append (Slot.inner name) (tag (kind.sign :: field.name.toList))
    (body.toList ++ (tag ('/' :: field.name.toList) ++ rest))
  rw [eq_of_matchAt_section kind hmatch]
  exact Nat.lt_of_le_of_lt hclose (Nat.lt_of_lt_of_le hbody hopen)

include hfield

/-- A slot around the tags of a section stands in its body or behind it. -/
theorem HasSlot.of_matchAt_section (hfree : BraceFree name.toList) {s rest : List Char}
    {body : String} (hmatch : (kind.patternFor field.name).matchAt s = some (body, rest))
    (h : HasSlot name s) : HasSlot name body.toList ∨ HasSlot name rest := by
  have hopen := TemplateTree.braceFree_sign_cons (TemplateTree.sign_mem_sectionSigns kind) hfield
  have hclose : BraceFree ('/' :: field.name.toList) :=
    TemplateTree.braceFree_sign_cons (by decide) hfield
  rw [eq_of_matchAt_section kind hmatch] at h
  have hinside : HasSlot name (body.toList ++ (tag ('/' :: field.name.toList) ++ rest)) :=
    (HasSlot.of_append_tag (s := []) hfree hopen
      (foldText_sign_ne (TemplateTree.sign_mem_sectionSigns kind) _) h).resolve_left
        HasSlot.not_nil
  exact hinside.of_append_tag hfree hclose (foldText_sign_ne (by decide) _)

/-- A slot is lost only in a hidden section, and its opening with it. -/
theorem HasSlot.decideSections (hfree : BraceFree name.toList) {t : List Char}
    (h : HasSlot name t) :
    HasSlot name (field.decideSections kind t) ∨
      tagOpenings (Slot.inner name) (field.decideSections kind t) <
        tagOpenings (Slot.inner name) t := by
  unfold FieldView.decideSections
  induction t using (kind.patternFor field.name).scan_induction with
  | nil => exact absurd h HasSlot.not_nil
  | hit s body rest hmatch ih =>
    have hle : tagOpenings (Slot.inner name) (field.decideSections kind rest) ≤
        tagOpenings (Slot.inner name) rest := tagOpenings_decideSections_le kind _ rest
    rw [Pattern.rewrite_hit _ _ hmatch]
    obtain hbody | hrest := h.of_matchAt_section hfield kind hfree hmatch
    · by_cases hshows : kind.shows field.value
      · rw [if_pos hshows]
        exact .inl (hbody.append_right _)
      · rw [if_neg hshows, String.toList_empty, List.nil_append]
        exact .inr (Nat.lt_of_le_of_lt hle (tagOpenings_rest_lt_of_hasSlot kind hmatch hbody))
    · obtain hkept | hlost := ih hrest
      · exact .inl (hkept.append_left _)
      · exact .inr (tagOpenings_section_hit kind _ hmatch _ 1 hlost)
  | miss c s hmiss ih =>
    obtain ⟨before, x, behind, hx, heq⟩ := h
    have hxfree := (Slot.braceFree_inner hfree).of_foldText_eq hx
    have hopens := kind.patternFor_opens field.name
    cases before with
    | nil =>
      left
      rw [List.nil_append] at heq
      rw [heq] at hmiss ⊢
      rw [Pattern.rewrite_tag_miss hopens _ hxfree hmiss]
      exact ⟨[], x, _, hx, rfl⟩
    | cons b before =>
      obtain ⟨rfl, rfl⟩ := List.cons.inj heq
      rw [Pattern.rewrite_miss _ _ hmiss]
      obtain hkept | hlost := ih ⟨before, x, behind, hx, rfl⟩
      · exact .inl (hkept.append_left [c])
      · exact .inr (tagOpenings_cons_rewrite_le _ hopens _ (n := 1) hlost)

end Section

/-- A step on templates that makes no openings and loses a slot only with its opening. -/
structure SlotStep (name : String) (step : List Char → List Char) : Prop where
  openings_le : ∀ t, openings name (step t) ≤ openings name t
  hasSlot_or_lt : ∀ t, HasSlot name t →
    HasSlot name (step t) ∨ openings name (step t) < openings name t

namespace SlotStep

variable {name : String}

theorem id : SlotStep name fun t => t where
  openings_le _ := Nat.le_refl _
  hasSlot_or_lt _ h := .inl h

theorem comp {first second : List Char → List Char} (hsecond : SlotStep name second)
    (hfirst : SlotStep name first) : SlotStep name fun t => second (first t) where
  openings_le t := (hsecond.openings_le _).trans (hfirst.openings_le t)
  hasSlot_or_lt t h := by
    obtain hslot | hlt := hfirst.hasSlot_or_lt t h
    · obtain hslot | hlt := hsecond.hasSlot_or_lt _ hslot
      · exact .inl hslot
      · exact .inr (Nat.lt_of_lt_of_le hlt (hfirst.openings_le t))
    · exact .inr (Nat.lt_of_le_of_lt (hsecond.openings_le _) hlt)

section Rewrite

variable {α : Type} {p : Pattern α} {w : List Char} (hw : SlotFree name w)
include hw

theorem openings_rewrite_le_self (hp : p.Opens) (t : List Char) :
    openings name (p.rewrite (fun _ => w) t) ≤ openings name t := by
  rw [openings_eq, openings_eq]
  exact tagOpenings_rewrite_le_self hp (slotFree_iff.1 hw) t

/-- Filling a slot takes an opening away. -/
theorem openings_rewrite_lt (hp : p.Opens)
    (hslot : ∀ s a rest, p.matchAt s = some (a, rest) →
      ∃ x, foldText x = foldText (Slot.inner name) ∧ s = tag x ++ rest)
    {t : List Char} (hfound : p.found t ≠ []) :
    openings name (p.rewrite (fun _ => w) t) < openings name t := by
  rw [openings_eq, openings_eq]
  exact tagOpenings_rewrite_lt hp (slotFree_iff.1 hw) hslot hfound

/-- Texts without openings may be put in place of slots. -/
theorem of_slots (hp : p.Opens)
    (hslot : ∀ s a rest, p.matchAt s = some (a, rest) →
      ∃ x, foldText x = foldText (Slot.inner name) ∧ s = tag x ++ rest) :
    SlotStep name (p.rewrite fun _ => w) where
  openings_le t := openings_rewrite_le_self hw hp t
  hasSlot_or_lt t h := by
    by_cases hfound : p.found t = []
    · rw [p.rewrite_eq_self _ hfound]
      exact .inl h
    · exact .inr (openings_rewrite_lt hw hp hslot hfound)

variable (hfree : BraceFree name.toList)
include hfree

/-- Texts without openings may be put in place of other tags. -/
theorem of_tags (hp : p.MatchesTags)
    (hmiss : ∀ x t, foldText x = foldText (Slot.inner name) → p.matchAt (tag x ++ t) = none) :
    SlotStep name (p.rewrite fun _ => w) where
  openings_le t := openings_rewrite_le_self hw hp.opens t
  hasSlot_or_lt _ h := .inl (h.rewrite hfree hp _ hmiss)

theorem of_literal {y : List Char} (hy : BraceFree y) :
    SlotStep name ((Pattern.literal (tag y) (tag_ne_nil y)).rewrite fun _ => w) := by
  have hp := Pattern.literal_matchesTags (tag_ne_nil y) hy
  by_cases hslot : foldText y = foldText (Slot.inner name)
  · exact of_slots hw hp.opens fun s a rest hmatch => ⟨y, hslot, Pattern.matchAt_eq _ hmatch⟩
  · refine of_tags hw hfree hp fun x t hx => ?_
    have hxfree := (Slot.braceFree_inner hfree).of_foldText_eq hx
    refine (Pattern.literal_matchAt_tag (tag_ne_nil y) hy hxfree t).trans (if_neg ?_)
    rintro rfl
    exact hslot hx

end Rewrite

end SlotStep

/-- The texts that a field puts into a template hold no opening of a slot of the field `name`. -/
structure SlotFreeField (name : String) (field : FieldView) : Prop where
  value : SlotFree name field.value.toList
  stripped : SlotFree name (field.stripper field.value).toList
  markup : SlotFree name field.clozeMarkup.toList

section Apply

variable {name : String} (hfree : BraceFree name.toList) {field : FieldView}
  (hfield : BraceFree field.name.toList) (h : SlotFreeField name field)
include hfree hfield

theorem slotStep_decideSections (kind : Section) : SlotStep name (field.decideSections kind) where
  openings_le t := by
    rw [openings_eq, openings_eq]
    exact tagOpenings_decideSections_le kind _ t
  hasSlot_or_lt t h := by
    rw [openings_eq, openings_eq]
    exact h.decideSections hfield kind hfree

include h

theorem slotStep_putText : SlotStep name field.putText := by
  have htext : BraceFree (Reference.text field.name).inner :=
    braceFree_append.2 ⟨by decide, hfield⟩
  unfold FieldView.putText
  rw [textPattern_eq]
  exact SlotStep.of_literal h.stripped hfree htext

theorem slotStep_fillSlots : SlotStep name field.fillSlots := by
  have hp := Slot.patternFor_matchesTags hfield
  by_cases hsame : foldText name.toList = foldText field.name.toList
  · refine SlotStep.of_slots h.markup hp.opens fun s a rest hmatch => ?_
    obtain ⟨x, hx, -, rfl⟩ := Slot.readFor?_eq_some_iff.1 hmatch
    exact ⟨x, hx.trans (Slot.foldText_inner_inj.2 hsame.symm), rfl⟩
  · refine SlotStep.of_tags h.markup hfree hp fun x t hx => ?_
    have hxfree := (Slot.braceFree_inner hfree).of_foldText_eq hx
    rw [Slot.patternFor_matchAt_tag hfield hxfree, if_neg]
    rw [hx, Slot.foldText_inner_inj]
    exact hsame

/-- The steps before the last, which fills the slots. -/
theorem slotStep_before :
    SlotStep name fun t => field.putText <| field.decideSections .blank <|
      field.decideSections .present <| field.putValue t :=
  (slotStep_putText hfree hfield h).comp <| (slotStep_decideSections hfree hfield .blank).comp <|
    (slotStep_decideSections hfree hfield .present).comp <|
      SlotStep.of_literal h.value hfree hfield

theorem slotStep_apply : SlotStep name field.apply :=
  (slotStep_fillSlots hfree hfield h).comp (slotStep_before hfree hfield h)

/-- The field of a slot takes its opening away. -/
theorem openings_apply_lt (hsame : field.name = name) {t : List Char} (hslot : HasSlot name t) :
    openings name (field.apply t) < openings name t := by
  subst hsame
  have hbefore := slotStep_before hfree hfield h
  rw [FieldView.apply]
  obtain hslot | hlt := hbefore.hasSlot_or_lt t hslot
  · refine Nat.lt_of_lt_of_le ?_ (hbefore.openings_le t)
    refine SlotStep.openings_rewrite_lt h.markup (Slot.patternFor_opens field.name) ?_
      (Slot.patternFor_found_ne_nil_iff.2 hslot)
    intro s a rest hmatch
    obtain ⟨x, hx, -, rfl⟩ := Slot.readFor?_eq_some_iff.1 hmatch
    exact ⟨x, hx, rfl⟩
  · exact Nat.lt_of_le_of_lt ((slotStep_fillSlots hfree hfield h).openings_le _) hlt

end Apply

section Fields

variable {name : String} (hfree : BraceFree name.toList)
include hfree

theorem slotStep_foldl {fields : List FieldView}
    (hfields : ∀ field ∈ fields, BraceFree field.name.toList ∧ SlotFreeField name field) :
    SlotStep name fun t => fields.foldl (fun template field => field.apply template) t := by
  induction fields with
  | nil => exact SlotStep.id
  | cons field fields ih =>
    obtain ⟨⟨hfield, h⟩, hrest⟩ := List.forall_mem_cons.1 hfields
    exact (ih hrest).comp (slotStep_apply hfree hfield h)

/-- A template with a slot of one of the fields does not come out of the steps as it was. -/
theorem openings_foldl_lt {fields : List FieldView}
    (hfields : ∀ field ∈ fields, BraceFree field.name.toList ∧ SlotFreeField name field)
    (hmem : ∃ field ∈ fields, field.name = name) {t : List Char} (hslot : HasSlot name t) :
    openings name (fields.foldl (fun template field => field.apply template) t) <
      openings name t := by
  obtain ⟨field, hfield, hsame⟩ := hmem
  obtain ⟨before, behind, rfl⟩ := List.append_of_mem hfield
  obtain ⟨hfree', h⟩ := hfields field hfield
  have hbefore := slotStep_foldl hfree fun other hother =>
    hfields other (List.mem_append_left _ hother)
  have hbehind := slotStep_foldl hfree fun other hother =>
    hfields other (List.mem_append_right _ (List.mem_cons_of_mem _ hother))
  rw [List.foldl_append, List.foldl_cons]
  refine Nat.lt_of_le_of_lt (hbehind.openings_le _) ?_
  obtain hkept | hlt := hbefore.hasSlot_or_lt t hslot
  · exact Nat.lt_of_lt_of_le (openings_apply_lt hfree hfree' h hsame hkept)
      (hbefore.openings_le t)
  · exact Nat.lt_of_le_of_lt ((slotStep_apply hfree hfree' h).openings_le _) hlt

end Fields

end Flashcard
