import Flashcard.Proofs.ClozeCard
import Flashcard.Proofs.NoteCards
import Flashcard.Proofs.Text.Decimal

/-!
# The cards of a preview

A cloze design is previewed with one note for each slot name of its front. The note of the k-th
name hides that name in a deletion of the k-th card, so the card shows a sentence about this field,
leaves the other slots of the front out, and shows every other field in parentheses
(`renderPreview_cloze`).
-/

namespace Flashcard

section Positions

variable {α β : Type} {f : α → Ordinal → Except RenderError β} {l : List α}

/-- A traversal of a list with ordinals for positions succeeds at each element, as long as the
ordinals suffice. -/
theorem exists_mapM_positions_eq_ok {R : α → β → Prop}
    (h : ∀ a ∈ l, ∀ ord, ∃ b, f a ord = .ok b ∧ R a b) (hl : l.length ≤ Ordinal.bound) :
    ∃ bs, (l.zipIdx.mapM fun (a, position) => Ordinal.ofPosition position >>= f a) = .ok bs ∧
      List.Forall₂ R l bs := by
  have hentry : ∀ entry ∈ l.zipIdx, ∃ b,
      (fun (a, position) => Ordinal.ofPosition position >>= f a) entry = .ok b ∧ R entry.1 b := by
    rintro ⟨a, position⟩ hmem
    have hposition : position < l.length := List.snd_lt_of_mem_zipIdx hmem
    obtain ⟨b, hb, hR⟩ :=
      h a (List.fst_mem_of_mem_zipIdx hmem) ⟨position, Nat.lt_of_lt_of_le hposition hl⟩
    refine ⟨b, ?_, hR⟩
    simp only [Ordinal.ofPosition, Ordinal.ofNat?, dif_pos (Nat.lt_of_lt_of_le hposition hl)]
    exact hb
  obtain ⟨bs, hbs, hall⟩ := exists_mapM_eq_ok hentry
  refine ⟨bs, hbs, ?_⟩
  have hfirst := List.forall₂_map_left_iff.2 hall
  rwa [List.zipIdx_map_fst] at hfirst

/-- The first position without an ordinal ends the traversal. -/
theorem mapM_positions_eq_error (h : ∀ a ∈ l, ∀ ord, ∃ b, f a ord = .ok b)
    (hl : Ordinal.bound < l.length) :
    (l.zipIdx.mapM fun (a, position) => Ordinal.ofPosition position >>= f a) =
      .error (.ordinalOutOfRange Ordinal.bound) := by
  obtain ⟨a, rest, hdrop⟩ := List.exists_cons_of_ne_nil
    (mt List.drop_eq_nil_iff.1 (Nat.not_le_of_lt hl) : l.drop Ordinal.bound ≠ [])
  have hlength : (l.take Ordinal.bound).length = Ordinal.bound := by
    rw [List.length_take, Nat.min_eq_left (Nat.le_of_lt hl)]
  have hsplit : l.zipIdx = (l.take Ordinal.bound).zipIdx ++ (a :: rest).zipIdx Ordinal.bound := by
    conv_lhs => rw [← List.take_append_drop Ordinal.bound l, hdrop]
    rw [List.zipIdx_append, hlength, Nat.zero_add]
  obtain ⟨bs, hbs, -⟩ := exists_mapM_positions_eq_ok (R := fun _ _ => True)
    (l := l.take Ordinal.bound)
    (fun a ha ord => (h a (List.mem_of_mem_take ha) ord).imp fun _ hb => ⟨hb, trivial⟩) hlength.le
  rw [hsplit, List.mapM_append, hbs, List.zipIdx_cons, List.mapM_cons]
  simp only [Ordinal.ofPosition, Ordinal.ofNat?, dif_neg (Nat.lt_irrefl _)]
  rfl

end Positions

/-- The pages that preview the slots of one name. -/
def Renderer.previewPages (r : Renderer) (design : Design) (shared : Variant) (slot : String)
    (ord : Ordinal) : Except RenderError (Option Card) :=
  r.pages .cloze ord (clozeSampleValues design.fields slot ord) shared.front shared.back design.css

theorem Renderer.preview_cloze_eq (r : Renderer) {design : Design} {shared : Variant}
    (hlayout : design.layout = .cloze shared) :
    r.preview design = (Slot.fields shared.front).zipIdx.mapM fun (slot, position) =>
      Ordinal.ofPosition position >>= r.previewPages design shared slot := by
  simp only [Renderer.preview, hlayout]
  rfl

/-- Fields that a preview can show: each can be asked for by a slot and hidden in a deletion. -/
structure PreviewFields (fields : List String) : Prop where
  name : ∀ name ∈ fields, SlotName name
  parts : ∀ name ∈ fields, ¬ doubleColon <:+: name.toList
  distinct : fields.Pairwise fun m n => foldText m.toList ≠ foldText n.toList

/-- Whether a reference is a slot of one of the fields. -/
def SlotOf (fields : List String) (r : Reference) : Prop := ∃ name ∈ fields, r = .slot name

/-- What stands for a slot on its own card. -/
def previewSentence (settings : Settings) (side : Side) (slot : String) : String :=
  "This is a cloze deletion for " ++
    (match side with
    | .front => frontBrackets settings.clozeFiller
    | .back => backBrackets slot) ++ "."

/-- What the preview of `slot` shows: the sentence for this slot, nothing for the other `slots` of
the front, and the name in parentheses for every other field. -/
def Reading.ofPreview (settings : Settings) (side : Side) (slots : List String) (slot : String) :
    Reading where
  shown
    | .slot name => some (if name = slot then previewSentence settings side slot
        else if name ∈ slots then "" else "(" ++ name ++ ")")
    | _ => none

/-- A field of the note that previews `slot`. -/
def sampleField (slot : String) (ord : Ordinal) (name : String) : ClozeField where
  name := name
  parts :=
    if name = slot then
      [.literal "This is a cloze deletion for ",
        .deletion ⟨false, toString ord.deletionIndex, name, none⟩, .literal "."]
    else [.literal (sampleValue name)]

/-- A value with one deletion, where `before` and `behind` stand around it. -/
theorem write_around (before behind : String) (d : Deletion) :
    ValuePart.write [.literal before, .deletion d, .literal behind] =
      before ++ String.ofList d.text ++ behind := by
  simp [ValuePart.write, ValuePart.fill, ← String.toList_inj]

theorem write_literal (s : String) : ValuePart.write [.literal s] = s := by
  simp [ValuePart.write, ValuePart.fill]

theorem pair_sampleField (slot : String) (ord : Ordinal) (name : String) :
    (sampleField slot ord name).pair =
      (name, if name = slot then clozeSample name ord else sampleValue name) := by
  rw [ClozeField.pair, sampleField]
  by_cases hname : name = slot
  · rw [if_pos hname, if_pos hname]
    exact congrArg (name, ·) (write_around _ _ _)
  · rw [if_neg hname, if_neg hname]
    exact congrArg (name, ·) (write_literal _)

theorem map_pair_sampleField (fields : List String) (slot : String) (ord : Ordinal) :
    (fields.map (sampleField slot ord)).map ClozeField.pair =
      clozeSampleValues fields slot ord := by
  simp only [List.map_map, Function.comp_def, pair_sampleField, clozeSampleValues]

open TemplateTree

section SampleNote

variable (slot : String) (ord : Ordinal)

/-- Only the field of the card asks for it. -/
theorem asks_sampleField (name : String) :
    (sampleField slot ord name).asks (toString ord.deletionIndex) = decide (name = slot) := by
  rw [ClozeField.asks, sampleField]
  by_cases hname : name = slot <;> simp [hname, ValuePart.deletion?]

/-- A field as its card shows it: the sentence, or the name in parentheses. -/
theorem shown_sampleField (settings : Settings) (side : Side) (name : String) :
    (sampleField slot ord name).shown settings side (toString ord.deletionIndex) =
      if name = slot then previewSentence settings side slot else sampleValue name := by
  have haround (before behind : String) (d : Deletion) (f : Deletion → List Char) :
      String.ofList ([ValuePart.literal before, .deletion d, .literal behind].flatMap
        (ValuePart.fill f)) = before ++ String.ofList (f d) ++ behind := by
    simp [ValuePart.fill, ← String.toList_inj]
  rw [ClozeField.shown, sampleField]
  by_cases hname : name = slot
  · rw [if_pos hname, if_pos hname, haround, String.ofList_toList, ClozeField.showDeletion.eq_def,
      if_pos rfl, hname]
    cases side <;> rfl
  · rw [if_neg hname, if_neg hname]
    simp [ValuePart.fill]

variable {fields : List String} (hfields : PreviewFields fields)

theorem clozeReference_of_slotOf {r : Reference} (hr : SlotOf fields r) :
    ClozeReference (fields.map (sampleField slot ord)) r := by
  obtain ⟨name, hname, rfl⟩ := hr
  exact ⟨sampleField slot ord name, List.mem_map_of_mem hname, rfl⟩

include hfields

theorem wellFormed_sampleField {name : String} (hname : name ∈ fields) :
    ∀ part ∈ (sampleField slot ord name).parts, part.WellFormed := by
  have hslot := hfields.name name hname
  have hdeletion : Deletion.WellFormed ⟨false, toString ord.deletionIndex, name, none⟩ := by
    refine ⟨?_, ?_, hslot.braceFree, hslot.line, hfields.parts name hname, nofun, nofun,
      fun h => absurd rfl h⟩ <;>
      simp only [Nat.toString_eq_ofList_toDigits, String.toList_ofList]
    · exact Nat.toDigits_ne_nil
    · exact fun c hc => isDecimalDigit_of_mem_toDigits hc
  have hsample : BraceFree (sampleValue name).toList := by
    simp only [sampleValue, String.toList_append, braceFree_append]
    exact ⟨⟨by decide, hslot.braceFree⟩, by decide⟩
  rw [sampleField]
  split
  · have hopening : BraceFree "This is a cloze deletion for ".toList := by decide +kernel
    simp only [List.forall_mem_cons]
    exact ⟨hopening, hdeletion, (by decide : BraceFree ".".toList), nofun⟩
  · exact List.forall_mem_singleton.2 hsample

theorem clozeNote_sample : ClozeNote (fields.map (sampleField slot ord)) where
  name := List.forall_mem_map.2 hfields.name
  distinct := List.pairwise_map.2 hfields.distinct
  part := List.forall_mem_map.2 fun _ hname => wellFormed_sampleField slot ord hfields hname

theorem shown_ofPreview (settings : Settings) (side : Side) (slots : List String) {r : Reference}
    (hr : SlotOf fields r) :
    (Reading.ofCloze settings side (toString ord.deletionIndex) slots
        (fields.map (sampleField slot ord)) none).shown r =
      (Reading.ofPreview settings side slots slot).shown r := by
  obtain ⟨name, hname, rfl⟩ := hr
  have hfield : sampleField slot ord name ∈ fields.map (sampleField slot ord) :=
    List.mem_map_of_mem hname
  have hshown : (Reading.ofCloze settings side (toString ord.deletionIndex) slots
      (fields.map (sampleField slot ord)) none).shown
        (.slot (sampleField slot ord name).name) = _ :=
    shown_ofCloze (clozeNote_sample slot ord hfields) side none hfield
  have hname : (sampleField slot ord name).name = name := rfl
  rw [ClozeField.leftOut, asks_sampleField, shown_sampleField, hname] at hshown
  refine hshown.trans (congrArg some ?_)
  by_cases hslot : name = slot
  · simp [hslot]
  · simp [hslot, sampleValue]

/-- The card that previews a slot of the front. -/
theorem card_sample (stripper : Stripper) {settings : Settings}
    (hfiller : BraceFree settings.clozeFiller.toList) {front back : TemplateTree}
    (hfront : front.WellFormed (SlotOf fields) fun _ => False)
    (hback : back.WellFormed (SlotOf fields) fun _ => False) (hslot : slot ∈ front.slots) :
    (Renderer.withBuiltIns stripper settings).card .cloze ord (clozeSampleValues fields slot ord)
        front.written back.written =
      .ok (some ⟨front.eval (.ofPreview settings .front front.slots slot),
        back.eval (.ofPreview settings .back front.slots slot)⟩) := by
  have hnote := clozeNote_sample slot ord hfields
  have hfront' := hfront.mono fun _ => clozeReference_of_slotOf slot ord
  have hback' := hback.mono fun _ => clozeReference_of_slotOf slot ord
  have hfrontNote : front.WellFormed (ClozeBackReference (fields.map (sampleField slot ord)))
      fun _ => False := hfront'.mono fun _ => .inl
  have hbackNote : back.WellFormed (ClozeBackReference (fields.map (sampleField slot ord)))
      fun _ => False := hback'.mono fun _ => .inl
  -- The back asks for no front, so putting the front there changes nothing.
  have hplain : '{' ∉ back.read (.ofCloze settings .back (toString ord.deletionIndex) front.slots
      (fields.map (sampleField slot ord)) none) := by
    refine openBrace_notMem_read hback (fun r s hr => ?_) fun r hr => ?_
    · exact quiet_ofCloze hnote hfiller .back r s (.inl (clozeReference_of_slotOf slot ord hr))
    · rw [shown_ofPreview slot ord hfields settings .back front.slots hr]
      obtain ⟨name, -, rfl⟩ := hr
      simp [Reading.ofPreview]
  have hread (side : Side) {t : TemplateTree} (ht : t.WellFormed (SlotOf fields) fun _ => False) :
      t.read (.ofCloze settings side (toString ord.deletionIndex) front.slots
        (fields.map (sampleField slot ord)) none) =
        t.read (.ofPreview settings side front.slots slot) :=
    read_congr ht (fun _ => shown_ofPreview slot ord hfields settings side front.slots)
      fun _ _ h => h.elim
  have hopens (a : Unit) : '{' ∈ Renderer.frontSide.text a := by
    cases a
    decide
  have hnarrow : Renderer.narrow .cloze ord ((fields.map (sampleField slot ord)).map
      ClozeField.pair) front.written back.written = _ :=
    ofCloze_written hnote hfront' hbackNote ord rfl
  rw [← map_pair_sampleField, card_withBuiltIns stripper settings hnarrow]
  simp only [String.toList_ofList]
  rw [builtInText_narrowed hnote hfiller stripper .front hfrontNote,
    builtInText_narrowed hnote hfiller stripper .back hbackNote,
    Pattern.rewrite_eq_self_of_notMem _ hopens _ hplain, if_neg, hread .front hfront,
    hread .back hback]
  · rfl
  · rw [read_ofCloze_eq_iff hnote hfiller .front hfront', not_not]
    obtain ⟨name, hname, hr⟩ := hfront.of_mem_slots hslot
    cases hr
    exact ⟨sampleField slot ord slot, List.mem_map_of_mem hname, hslot,
      (asks_sampleField slot ord slot).trans (decide_eq_true rfl)⟩

end SampleNote

/-- Positions that have ordinals are numbered from zero on. -/
theorem exists_mapM_ofPosition_eq_ok {count : Nat} (h : count ≤ Ordinal.bound) :
    ∃ ords, (List.range count).mapM Ordinal.ofPosition = .ok ords ∧
      ords.map Ordinal.toNat = List.range count := by
  have hentry : ∀ position ∈ List.range count,
      ∃ ord, Ordinal.ofPosition position = .ok ord ∧ position = ord.toNat := by
    intro position hmem
    have hlt := Nat.lt_of_lt_of_le (List.mem_range.1 hmem) h
    exact ⟨⟨position, hlt⟩, by simp only [Ordinal.ofPosition, Ordinal.ofNat?, dif_pos hlt], rfl⟩
  obtain ⟨ords, hords, hall⟩ := exists_mapM_eq_ok hentry
  refine ⟨ords, hords, ?_⟩
  have heq := List.forall₂_map_right_iff.2 hall
  rw [List.forall₂_eq_eq_eq] at heq
  exact heq.symm

/-- The preview of the slot name `slot`: the sentence for this slot, nothing for the other slots of
the front, and the name of every other field in parentheses. -/
def previewOf (settings : Settings) (css : String) (front back : TemplateTree) (slot : String) :
    Card where
  front := page settings css (front.eval (.ofPreview settings .front front.slots slot))
  back := page settings css (back.eval (.ofPreview settings .back front.slots slot))

/-- A cloze design has one preview for each slot name of its front, in the order of their first
slots, and the previews are numbered from zero on. There are as many as there are ordinals, and a
front with more names has no preview. -/
theorem renderPreview_cloze (stripper : Stripper) {settings : Settings}
    (hfiller : BraceFree settings.clozeFiller.toList) {fields : List String}
    (hfields : PreviewFields fields) {front back : TemplateTree}
    (hfront : front.WellFormed (SlotOf fields) fun _ => False)
    (hback : back.WellFormed (SlotOf fields) fun _ => False) {shared : Variant}
    (hfrontText : shared.front = front.written) (hbackText : shared.back = back.written)
    (css : String) :
    let r := Renderer.withBuiltIns stripper settings
    let design : Design := ⟨fields, .cloze shared, css⟩
    let slots := front.slots.eraseDups
    let previews := slots.map fun slot => some (previewOf settings css front back slot)
    (slots.length ≤ Ordinal.bound →
      r.preview design = .ok previews ∧
        ∃ cards, Tool.renderPreview r design = .ok cards ∧
          cards.map (·.ordinal.toNat) = List.range slots.length ∧
          cards.map (·.sides) = previews) ∧
      (Ordinal.bound < slots.length →
        r.preview design = .error (.ordinalOutOfRange Ordinal.bound)) := by
  intro r design slots previews
  have hslots : Slot.fields shared.front = slots := by
    rw [hfrontText, fields_written (hfront.mono fun ref href => ?_)]
    obtain ⟨name, hname, rfl⟩ := href
    have hslot := hfields.name name hname
    exact .slot hslot.ne_empty hslot.braceFree hslot.line
  have hpages (slot : String) (hslot : slot ∈ slots) (ord : Ordinal) :
      r.previewPages design shared slot ord =
        .ok (some (previewOf settings css front back slot)) := by
    have hcard := card_sample slot ord hfields stripper hfiller hfront hback
      (List.mem_eraseDups.1 hslot)
    rw [Renderer.previewPages, Renderer.pages, hfrontText, hbackText, hcard]
    rfl
  rw [r.preview_cloze_eq rfl, hslots]
  constructor
  · intro hle
    obtain ⟨found, hfound, hall⟩ := exists_mapM_positions_eq_ok
      (R := fun slot found => some (previewOf settings css front back slot) = found)
      (fun slot hslot ord => ⟨_, hpages slot hslot ord, rfl⟩) hle
    have heq := List.forall₂_map_left_iff.2 hall
    rw [List.forall₂_eq_eq_eq] at heq
    obtain rfl : previews = found := heq
    obtain ⟨ords, hords, hnumbers⟩ := exists_mapM_ofPosition_eq_ok hle
    have hlength : ords.length = previews.length := by
      have hcount := congrArg List.length hnumbers
      rwa [List.length_map, List.length_range, ← List.length_map (f := fun slot =>
        some (previewOf settings css front back slot))] at hcount
    refine ⟨hfound, List.zipWith Tool.RenderedCard.mk ords previews, ?_, ?_, ?_⟩
    · have hcount : previews.length = slots.length := List.length_map _
      rw [Tool.renderPreview, r.preview_cloze_eq rfl, hslots, hfound]
      change ((List.range previews.length).mapM Ordinal.ofPosition).mapError _ >>= _ = _
      rw [hcount, hords]
      rfl
    · rw [← hnumbers, ← List.map_uncurry_zip_eq_zipWith, List.map_map]
      conv_rhs => rw [← List.map_fst_zip hlength.le, List.map_map]
      rfl
    · rw [← List.map_uncurry_zip_eq_zipWith, List.map_map]
      exact List.map_snd_zip hlength.ge
  · intro hlt
    exact mapM_positions_eq_error (fun slot hslot ord => ⟨_, hpages slot hslot ord⟩) hlt

/-- Two names on the front, one of them twice, and a field that only the back shows. -/
theorem renderPreview_cloze_two_slots :
    let front : TemplateTree := .append (.reference (.slot "B"))
      (.append (.reference (.slot "A")) (.append (.literal " ") (.reference (.slot "B"))))
    let back : TemplateTree := .append (.reference (.slot "A")) (.reference (.slot "C"))
    let shared : Variant := ⟨.first, "", front.written, back.written, none, none⟩
    front.written = "\x7b\x7bcloze:B\x7d\x7d\x7b\x7bcloze:A\x7d\x7d \x7b\x7bcloze:B\x7d\x7d" ∧
      (Renderer.withBuiltIns id {}).preview ⟨["A", "B", "C"], .cloze shared, ""⟩ =
        .ok [some
            ⟨page {} "" (previewSentence {} .front "B" ++ " " ++ previewSentence {} .front "B"),
              page {} "" "(C)"⟩,
          some ⟨page {} "" (previewSentence {} .front "A" ++ " "),
            page {} "" (previewSentence {} .back "A" ++ "(C)")⟩] := by
  intro front back shared
  have hname (name : String) (h : name ∈ ["A", "B", "C"]) :
      SlotName name ∧ ¬ doubleColon <:+: name.toList := by
    simp only [List.mem_cons, List.not_mem_nil, or_false] at h
    obtain rfl | rfl | rfl := h <;>
      exact ⟨⟨by decide, by decide, by decide, by decide, by decide⟩, by decide⟩
  have hfields : PreviewFields ["A", "B", "C"] :=
    ⟨fun name h => (hname name h).1, fun name h => (hname name h).2, by decide⟩
  have hslot {name : String} (h : name ∈ ["A", "B", "C"]) : SlotOf ["A", "B", "C"] (.slot name) :=
    ⟨name, h, rfl⟩
  have hfront : front.WellFormed (SlotOf ["A", "B", "C"]) fun _ => False :=
    ⟨hslot (by decide), hslot (by decide), (by decide : BraceFree " ".toList), hslot (by decide)⟩
  have hback : back.WellFormed (SlotOf ["A", "B", "C"]) fun _ => False :=
    ⟨hslot (by decide), hslot (by decide)⟩
  have hslots : front.slots.eraseDups = ["B", "A"] := by decide
  refine ⟨by decide, ?_⟩
  have hfiller : BraceFree ({} : Settings).clozeFiller.toList := by decide
  have hfrontText : shared.front = front.written := rfl
  have h := (renderPreview_cloze id hfiller hfields hfront hback hfrontText rfl "").1
  rw [hslots] at h
  refine (h (by decide)).1.trans ?_
  simp [previewOf, front, back, eval, TemplateTree.read, Reading.ofPreview, slots,
    String.append_assoc, ← String.toList_inj]

end Flashcard
