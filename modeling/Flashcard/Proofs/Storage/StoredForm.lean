import Flashcard.Proofs.Json.Rearrangement
import Flashcard.Proofs.Storage.RoundTrip

/-!
# Stored data in another arrangement

The members of a stored record may stand in any order, with members of unknown names among them, and
what is read stays the same. That holds for records within records and for the tag of a layout,
which may stand anywhere. So each value has a normal form, the one that is written for what is read
from it, and its rearrangements have the same (`storedForms`).
-/

namespace Flashcard

open Json

/-- The normal form of a value. -/
def normalize {α : Type} (encode : α → Value) (decode : Decoder α) (v : Value) :
    Except Fault Value :=
  encode <$> decode v

/-- What is encoded decodes to itself, rearranged values decode to the same, and normal forms are
read as what they are the normal form of. -/
structure StoredForm {α : Type} (encode : α → Value) (decode : Decoder α) (R : Rearrangement) :
    Prop where
  decode_encode (a : α) : decode (encode a) = .ok a
  stable : Stable decode R
  normal {v n : Value} (h : normalize encode decode v = .ok n) :
    decode n = decode v ∧ normalize encode decode n = .ok n
  normalize_eq {v w n : Value} (hR : R v w) (hw : w.IsWhole)
    (h : normalize encode decode v = .ok n) : normalize encode decode w = .ok n

theorem normalize_eq_ok_iff {α : Type} {encode : α → Value} {decode : Decoder α} {v n : Value} :
    normalize encode decode v = .ok n ↔ ∃ a, decode v = .ok a ∧ encode a = n := by
  rw [normalize]
  cases decode v <;> simp

theorem StoredForm.of_stable {α : Type} {encode : α → Value} {decode : Decoder α}
    {R : Rearrangement} (hround : ∀ a, decode (encode a) = .ok a) (hstable : Stable decode R) :
    StoredForm encode decode R where
  decode_encode := hround
  stable := hstable
  normal := by
    intro v n h
    obtain ⟨a, ha, rfl⟩ := normalize_eq_ok_iff.1 h
    exact ⟨(hround a).trans ha.symm, normalize_eq_ok_iff.2 ⟨a, hround a, rfl⟩⟩
  normalize_eq := by
    intro v w n hR hw h
    obtain ⟨a, ha, rfl⟩ := normalize_eq_ok_iff.1 h
    exact normalize_eq_ok_iff.2 ⟨a, hstable hR hw ha, rfl⟩

/-! ### Plain records -/

def Variant.rearrangement : Rearrangement :=
  .plain ["id", "name", "front", "back", "short_front", "short_back"]

theorem Variant.stable (excess : Fault) :
    Stable (Variant.decode excess) Variant.rearrangement :=
  Stable.plain (by simp [Variant.fields, RecordField.commutes_of]) (by decide)

def Settings.rearrangement : Rearrangement := .plain ["cloze_filler", "front_color", "back_color"]

theorem Settings.stable : Stable Settings.decode Settings.rearrangement :=
  Stable.plain (by simp [RecordField.commutes_of]) (by decide)

theorem SettingsPatch.stable : Stable SettingsPatch.decode Settings.rearrangement :=
  Stable.plain (by simp [RecordField.commutes_of]) (by decide)

theorem stable_decodeFieldName : Stable decodeFieldName (.plain ["name"]) :=
  Stable.plain (List.pairwise_singleton _ _) (by decide)

/-! ### Layouts -/

namespace Layout

/-- The part that holds the variants, and how they may be rearranged. -/
def contentPart : Kind → String × Rearrangement
  | .standard => ("templates", .list Variant.rearrangement)
  | .cloze => ("template", Variant.rearrangement)

/-- Whether a value is marked as a layout of this kind, by a member or by its first item. -/
inductive IsMarked (kind : Kind) : Value → Prop
  | member {ms : List (String × Value)} (h : ("tag", kind.encode) ∈ ms) :
    IsMarked kind (.ofMembers ms)
  | item (vs : List Value) : IsMarked kind (.ofItems (kind.encode :: vs))

/-- The tag may stand anywhere. All of a layout is kept before it is decoded, so it may not become
deeper than `levels`. -/
inductive rearrangement (levels : Nat) : Rearrangement
  | same (v : Value) : rearrangement levels v v
  | marked {kind : Kind} {v w : Value} (hmark : IsMarked kind v)
    (h : Rearrangement.record [("tag", Eq), contentPart kind] v w)
    (hlevels : v.readFault? levels = none → w.readFault? levels = none) : rearrangement levels v w

variable {room : Nat} {kind : Kind} {layout : Layout}

/-- The field that holds the variants. -/
def contentField : Kind → RecordField Layout
  | .standard =>
    .of "templates" .required (list (Variant.decode .mismatched)) fun vs _ => .standard vs
  | .cloze => .of "template" .required (Variant.decode .mismatched) fun v _ => .cloze v

theorem decodeContent_eq (kind : Kind) :
    decodeContent kind = record .mismatched [contentField kind] (.standard []) := by
  cases kind <;> rfl

theorem contentField_name (kind : Kind) : (contentField kind).name = (contentPart kind).1 := by
  cases kind <;> rfl

theorem contentPart_ne_tag (kind : Kind) : (contentPart kind).1 ≠ "tag" := by
  cases kind <;> decide

theorem contentField_stable (kind : Kind) : (contentField kind).Stable (contentPart kind).2 := by
  cases kind with
  | standard => exact RecordField.stable_of (Variant.stable .mismatched).list
  | cloze => exact RecordField.stable_of (Variant.stable .mismatched)

theorem decodeWithin_items {vs : List Value} :
    decodeWithin room (.ofItems (kind.encode :: vs)) = .ok layout ↔
      (∀ v ∈ vs, v.readFault? room = none) ∧ decodeContent kind (.ofItems vs) = .ok layout := by
  rw [← Items.readFault?_ofList]
  simp only [Value.ofItems, Items.ofList, decodeWithin, Items.next, Kind.decodeName_encode, ok_bind,
    pure, Except.pure]
  cases (Items.ofList vs).readFault? room <;> simp

theorem isMarked_ofMembers {ms : List (String × Value)} (h : IsMarked kind (.ofMembers ms)) :
    ("tag", kind.encode) ∈ ms := by
  generalize hv : Value.ofMembers ms = v at h
  cases h with
  | member h => rwa [Members.ofList_injective (Value.object.inj hv)]
  | item => cases hv

theorem isMarked_ofItems {vs : List Value} (h : IsMarked kind (.ofItems vs)) :
    ∃ rest, vs = kind.encode :: rest := by
  generalize hv : Value.ofItems vs = v at h
  cases h with
  | member => cases hv
  | item rest => exact ⟨rest, Items.ofList_injective (Value.array.inj hv)⟩

theorem decodeName_eq_ok_iff {v : Value} : Kind.decodeName v = .ok kind ↔ v = kind.encode := by
  constructor
  · intro h
    obtain ⟨name, hname, hkind⟩ := bind_eq_ok_iff.1 h
    cases v <;> cases hname
    cases hfound : Kind.ofName? name with
    | none => simp [hfound] at hkind
    | some found =>
      obtain rfl : found = kind := by simpa [hfound, pure, Except.pure] using hkind
      have hname : found.name = name := by simpa using List.find?_some hfound
      rw [Kind.encode, hname]
  · rintro rfl
    exact kind.decodeName_encode

/-- Whatever is read as a layout is marked as one. -/
theorem exists_isMarked {v : Value} (h : decodeWithin room v = .ok layout)
    (hv : (∃ ms, v = .ofMembers ms) ∨ ∃ vs, v = .ofItems vs) : ∃ kind, IsMarked kind v := by
  obtain ⟨ms, rfl⟩ | ⟨vs, rfl⟩ := hv
  · obtain ⟨kind, htag, -⟩ := decodeWithin_members.1 h
    obtain ⟨-, v, hfilter, hv⟩ := decodeTag_none_eq_ok_iff.1 htag
    obtain rfl := decodeName_eq_ok_iff.1 hv
    have hmem : ("tag", kind.encode) ∈ ms.filter (·.1 == "tag") :=
      hfilter ▸ List.mem_singleton_self _
    exact ⟨kind, .member (List.mem_filter.1 hmem).1⟩
  · obtain ⟨⟨kind, items⟩, hnext, -⟩ := bind_eq_ok_iff.1 h
    cases vs with
    | nil => cases hnext
    | cons v vs =>
      obtain ⟨found, hfound, -⟩ := bind_eq_ok_iff.1 hnext
      obtain rfl := decodeName_eq_ok_iff.1 hfound
      exact ⟨found, .item vs⟩

/-- The members of a layout are all kept. -/
theorem readFault?_members {ms : List (String × Value)}
    (h : decodeWithin room (.ofMembers ms) = .ok layout) :
    (Value.ofMembers ms).readFault? (room + 1) = none := by
  obtain ⟨kind, htag, -⟩ := decodeWithin_members.1 h
  obtain ⟨hothers, v, hfilter, hv⟩ := decodeTag_none_eq_ok_iff.1 htag
  refine Value.readFault?_ofMembers.2 fun m hm => ?_
  by_cases hname : m.1 = "tag"
  · have hmem : m ∈ ms.filter (·.1 == "tag") := List.mem_filter.2 ⟨hm, by simp [hname]⟩
    obtain rfl : m = ("tag", v) := by simpa [hfilter] using hmem
    obtain rfl := decodeName_eq_ok_iff.1 hv
    rfl
  · exact hothers m hm hname

theorem readFault?_items {vs : List Value}
    (h : decodeWithin room (.ofItems (kind.encode :: vs)) = .ok layout) :
    (Value.ofItems (kind.encode :: vs)).readFault? (room + 1) = none :=
  Value.readFault?_ofItems.2 (List.forall_mem_cons.2 ⟨rfl, (decodeWithin_items.1 h).1⟩)

/-- The members of a layout may change places. -/
theorem rearrangement_of_perm {ms ms' : List (String × Value)}
    (h : decodeWithin room (.ofMembers ms) = .ok layout) (hperm : ms'.Perm ms) :
    rearrangement (room + 1) (.ofMembers ms) (.ofMembers ms') := by
  obtain ⟨kind, hmark⟩ := exists_isMarked h (.inl ⟨ms, rfl⟩)
  have hkept : List.Forall₂ (Rearrangement.OfMember [("tag", Eq), contentPart kind]) ms ms :=
    List.forall₂_same.2 fun m _ => .same m
  have hadded : ms'.Perm (ms ++ []) := by rwa [List.append_nil]
  refine .marked hmark (.members hkept (by simp) hadded) fun hlevels => ?_
  rw [Value.readFault?_ofMembers] at hlevels ⊢
  exact fun m hm => hlevels m (hperm.mem_iff.1 hm)

/-- No layout has two tags, so the tag that marks it is the one that is found. -/
theorem decodeTag_of_isMarked {ms : List (String × Value)} {found : Kind}
    (hmark : IsMarked kind (.ofMembers ms)) (h : decodeTag room none (.ofList ms) = .ok found) :
    found = kind ∧ ms.filter (·.1 == "tag") = [("tag", kind.encode)] := by
  obtain ⟨-, v, hfilter, hv⟩ := decodeTag_none_eq_ok_iff.1 h
  have hmem : ("tag", kind.encode) ∈ ms.filter (·.1 == "tag") :=
    List.mem_filter.2 ⟨isMarked_ofMembers hmark, rfl⟩
  obtain rfl : kind.encode = v := by simpa [hfilter] using hmem
  rw [Kind.decodeName_encode] at hv
  exact ⟨(Except.ok.inj hv).symm, hfilter⟩

theorem stable_of_mem_parts (kind : Kind) :
    ∀ field ∈ [contentField kind], ∀ R, (field.name, R) ∈ [("tag", Eq), contentPart kind] →
      field.Stable R := by
  simp only [List.mem_singleton, forall_eq, contentField_name]
  intro R hR
  obtain hR | hR := List.mem_cons.1 hR
  · exact absurd (Prod.mk.inj hR).1 (contentPart_ne_tag kind)
  · have hR : contentPart kind = (_, R) := (List.mem_singleton.1 hR).symm
    have := contentField_stable kind
    rwa [hR] at this

theorem decodeWithin_members_rearranged {ms kept added ms' : List (String × Value)}
    (hmark : IsMarked kind (.ofMembers ms))
    (hkept : List.Forall₂ (Rearrangement.OfMember [("tag", Eq), contentPart kind]) ms kept)
    (hadded : ∀ m ∈ added, m.1 ∉ ["tag", (contentPart kind).1])
    (hperm : ms'.Perm (kept ++ added))
    (hlevels : (Value.ofMembers ms').readFault? (room + 1) = none)
    (hwhole : (Value.ofMembers ms').IsWhole)
    (h : decodeWithin room (.ofMembers ms) = .ok layout) :
    decodeWithin room (.ofMembers ms') = .ok layout := by
  obtain ⟨found, htag, hcontent⟩ := decodeWithin_members.1 h
  obtain ⟨rfl, hfilter⟩ := decodeTag_of_isMarked hmark htag
  have hfixed : ∀ R, ("tag", R) ∈ [("tag", Eq), contentPart found] → R = Eq := by
    simp [Prod.ext_iff, (contentPart_ne_tag found).symm]
  have hfilter' : ms'.filter (·.1 == "tag") = [("tag", found.encode)] := by
    have hsame := filter_perm_of_members List.mem_cons_self hfixed hkept hadded hperm
    exact List.perm_singleton.1 (hfilter ▸ hsame)
  have htag' : decodeTag room none (.ofList ms') = .ok found := by
    refine decodeTag_none_eq_ok_iff.2 ⟨fun m hm _ => ?_, _, hfilter', found.decodeName_encode⟩
    exact Value.readFault?_ofMembers.1 hlevels m hm
  refine decodeWithin_members.2 ⟨found, htag', ?_⟩
  rw [decodeContent_eq] at hcontent ⊢
  exact decode_members_rearranged (List.pairwise_singleton _ _) (by simp [contentField_name])
    (stable_of_mem_parts found) hkept hadded hperm (Value.isWhole_ofMembers.1 hwhole) hcontent

theorem decodeWithin_items_rearranged {vs ws : List Value}
    (hitems : Rearrangement.OfItems [("tag", Eq), contentPart kind] (kind.encode :: vs) ws)
    (hlevels : (Value.ofItems ws).readFault? (room + 1) = none)
    (hwhole : (Value.ofItems ws).IsWhole)
    (h : decodeWithin room (.ofItems (kind.encode :: vs)) = .ok layout) :
    decodeWithin room (.ofItems ws) = .ok layout := by
  cases hitems with
  | @cons _ _ _ _ w _ ws htag hrest =>
    obtain rfl : kind.encode = w := htag
    obtain ⟨-, hcontent⟩ := decodeWithin_items.1 h
    have hread := List.forall_mem_cons.1 (Value.readFault?_ofItems.1 hlevels)
    have hwhole := List.forall_mem_cons.1 (Value.isWhole_ofItems.1 hwhole)
    refine decodeWithin_items.2 ⟨hread.2, ?_⟩
    rw [decodeContent_eq] at hcontent ⊢
    exact decode_items_rearranged (.cons (contentField_stable kind) .nil) hrest hwhole.2 hcontent

theorem stable_decodeWithin (room : Nat) :
    Stable (decodeWithin room) (rearrangement (room + 1)) := by
  rintro v w (_ | ⟨hmark, h, hlevels⟩) hwhole layout hv
  · exact hv
  cases h with
  | same => exact hv
  | members hkept hadded hperm =>
    exact decodeWithin_members_rearranged hmark hkept hadded hperm
      (hlevels (readFault?_members hv)) hwhole hv
  | items hitems =>
    obtain ⟨rest, rfl⟩ := isMarked_ofItems hmark
    exact decodeWithin_items_rearranged hitems (hlevels (readFault?_items hv)) hwhole hv

end Layout

/-! ### Templates -/

def Template.rearrangement : Rearrangement :=
  .record
    [("id", Eq), ("name", Eq), ("created", Eq), ("updated", Eq),
      ("fields", .list (.plain ["name"])),
      ("template_type", Layout.rearrangement (Layout.depthLimit - 1)), ("css", Eq)]

theorem Template.stable : Stable Template.decode Template.rearrangement := by
  refine Stable.record (by simp [Template.fields, RecordField.commutes_of]) (by decide) ?_
  have hfields := stable_decodeFieldName.list
  have hlayout := Layout.stable_decodeWithin (Layout.depthLimit - 2)
  exact .cons ⟨rfl, RecordField.stable_eq _⟩ <| .cons ⟨rfl, RecordField.stable_eq _⟩ <|
    .cons ⟨rfl, RecordField.stable_eq _⟩ <| .cons ⟨rfl, RecordField.stable_eq _⟩ <|
    .cons ⟨rfl, RecordField.stable_of hfields⟩ <| .cons ⟨rfl, RecordField.stable_of hlayout⟩ <|
    .cons ⟨rfl, RecordField.stable_eq _⟩ .nil

/-- A layout as it is written, and with its tag last and a note between. -/
def writtenLayout (v : Variant) : Value :=
  .ofMembers [("tag", Kind.cloze.encode), ("template", v.encode)]

def rearrangedLayout (v : Variant) : Value :=
  .ofMembers [("template", v.encode), ("tag", Kind.cloze.encode), ("note", .null)]

end Flashcard
