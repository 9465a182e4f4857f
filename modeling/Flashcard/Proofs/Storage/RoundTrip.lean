import Flashcard.Proofs.Json.Decoding
import Flashcard.Proofs.Timestamp
import Flashcard.Proofs.Uuid
import Flashcard.Storage.Decoding
import Flashcard.Storage.Encoding

/-!
# Stored data is read as it is written

What is encoded decodes to itself. A layout is marked by its tag, which stands once among its
members; the others are kept until the tag is known (`decodeTag_none_eq_ok_iff`).
-/

namespace Flashcard

open Json

theorem Ordinal.decode_encode (ord : Ordinal) : Ordinal.decode ord.encode = .ok ord := by
  obtain ⟨n, hn⟩ := ord
  have hdigits : ∀ c ∈ Nat.toDigits 10 n, isDecimalDigit c :=
    fun c => isDecimalDigit_of_mem_toDigits
  have hnat : natural? (toString n) = some n := by
    have hlist : (toString n).toList = Nat.toDigits 10 n := String.toList_ofList
    rw [natural?, hlist, if_pos (List.all_eq_true.2 hdigits), decimalValue_toDigits]
  rw [encode, Value.ofNat, decode, hnat, Option.bind_eq_bind, Option.bind_some, ofNat?, dif_pos hn]

theorem FieldValues.decode_encode (fields : FieldValues) :
    FieldValues.decode fields.encode = .ok fields :=
  decode_list_map (fun _ : String × String => rfl) fields

theorem Kind.decodeName_encode (kind : Kind) : Kind.decodeName kind.encode = .ok kind := by
  cases kind <;> rfl

theorem Kind.decode_encode (kind : Kind) : Kind.decode kind.encode = .ok kind := by
  cases kind <;> rfl

theorem Variant.decode_encode (excess : Fault) (v : Variant) :
    Variant.decode excess v.encode = .ok v := by
  obtain ⟨id, name, front, back, shortFront, shortBack⟩ := v
  have hid := Ordinal.decode_encode id
  cases shortFront <;> cases shortBack <;>
    simp [Variant.decode, Variant.encode, record, Value.ofMembers, optionalMember, Members.ofList,
      Members.decode, Variant.fields, RecordField.of, hid, pure, Except.pure, text, Json.optional,
      Variant.blank]

theorem Variant.readFault?_encode (v : Variant) (room : Nat) :
    v.encode.readFault? (room + 1) = none := by
  rw [Variant.encode, Value.readFault?_ofMembers]
  obtain ⟨id, name, front, back, shortFront, shortBack⟩ := v
  cases shortFront <;> cases shortBack <;>
    simp [optionalMember, Ordinal.encode, Value.ofNat, Value.readFault?]

theorem decodeFieldName_encode (name : String) :
    decodeFieldName (encodeFieldName name) = .ok name :=
  rfl

namespace Layout

variable {room : Nat} {kind : Kind} {ms : List (String × Value)}

theorem decodeTag_nil {found : Option Kind} :
    decodeTag room found (.ofList []) = .ok kind ↔ found = some kind := by
  cases found with
  | none => exact iff_of_false nofun nofun
  | some other =>
    constructor
    · exact fun h => congrArg some (Except.ok.inj h)
    · exact fun h => congrArg Except.ok (Option.some.inj h)

theorem decodeTag_tag (found : Option Kind) (v : Value) :
    decodeTag room found (.ofList (("tag", v) :: ms)) =
      if found.isSome then .error .mismatched
      else Kind.decodeName v >>= fun kind => decodeTag room (some kind) (.ofList ms) := by
  rw [Members.ofList, decodeTag]

theorem decodeTag_other (found : Option Kind) {m : String × Value} (h : m.1 ≠ "tag") :
    decodeTag room found (.ofList (m :: ms)) = .ok kind ↔
      m.2.readFault? room = none ∧ decodeTag room found (.ofList ms) = .ok kind := by
  rw [Members.ofList, decodeTag]
  · simp only [Value.keyReadFault?, Option.none_or]
    cases m.2.readFault? room <;> simp
  · exact fun heq => h (Value.string.inj heq)

/-- After the tag there is no other, and the other members are kept. -/
theorem decodeTag_some_eq_ok_iff {found : Kind} :
    decodeTag room (some found) (.ofList ms) = .ok kind ↔
      (∀ m ∈ ms, m.1 ≠ "tag" ∧ m.2.readFault? room = none) ∧ found = kind := by
  induction ms with
  | nil => simp [decodeTag_nil]
  | cons m ms ih =>
    by_cases htag : m.1 = "tag"
    · obtain ⟨_, v⟩ := m
      obtain rfl : _ = "tag" := htag
      simp [decodeTag_tag]
    · rw [decodeTag_other _ htag, ih, List.forall_mem_cons]
      simp [htag, and_assoc]

/-- A layout has one tag, and its other members are kept. -/
theorem decodeTag_none_eq_ok_iff :
    decodeTag room none (.ofList ms) = .ok kind ↔
      (∀ m ∈ ms, m.1 ≠ "tag" → m.2.readFault? room = none) ∧
        ∃ v, ms.filter (·.1 == "tag") = [("tag", v)] ∧ Kind.decodeName v = .ok kind := by
  induction ms with
  | nil => simp [decodeTag_nil]
  | cons m ms ih =>
    by_cases htag : m.1 = "tag"
    · obtain ⟨_, v⟩ := m
      obtain rfl : _ = "tag" := htag
      simp only [decodeTag_tag, Option.isSome_none, Bool.false_eq_true, if_false, bind_eq_ok_iff,
        decodeTag_some_eq_ok_iff]
      have hrest : ms.filter (·.1 == "tag") = [] ↔ ∀ m ∈ ms, m.1 ≠ "tag" := by simp
      constructor
      · rintro ⟨a, ha, hms, rfl⟩
        refine ⟨?_, v, ?_, ha⟩
        · exact List.forall_mem_cons.2 ⟨fun h => absurd rfl h, fun m hm _ => (hms m hm).2⟩
        · rw [List.filter_cons_of_pos rfl, hrest.2 fun m hm => (hms m hm).1]
      · rintro ⟨hms, w, hfilter, hw⟩
        rw [List.filter_cons_of_pos rfl, List.cons.injEq, hrest] at hfilter
        obtain ⟨heq, hfilter⟩ := hfilter
        obtain rfl : v = w := (Prod.mk.inj heq).2
        exact ⟨kind, hw, fun m hm => ⟨hfilter m hm, hms m (.tail _ hm) (hfilter m hm)⟩, rfl⟩
    · rw [decodeTag_other _ htag, ih, List.forall_mem_cons]
      simp [htag, and_assoc]

theorem decodeWithin_members {layout : Layout} :
    decodeWithin room (.ofMembers ms) = .ok layout ↔
      ∃ kind, decodeTag room none (.ofList ms) = .ok kind ∧
        decodeContent kind (.ofMembers ms) = .ok layout :=
  bind_eq_ok_iff

theorem decodeWithin_encode (layout : Layout) (room : Nat) :
    decodeWithin (room + 2) layout.encode = .ok layout := by
  have hwhole (variants : List Variant) :
      (Value.ofItems (variants.map Variant.encode)).readFault? (room + 2) = none := by
    rw [Value.readFault?_ofItems]
    exact List.forall_mem_map.2 fun v _ => v.readFault?_encode room
  refine decodeWithin_members.2 ⟨layout.kind,
    decodeTag_none_eq_ok_iff.2 ⟨?_, layout.kind.encode, ?_, layout.kind.decodeName_encode⟩, ?_⟩
  · cases layout with
    | standard variants => simpa using hwhole variants
    | cloze v => simpa using v.readFault?_encode (room + 1)
  · cases layout <;> rfl
  · cases layout with
    | standard variants =>
      have hvariants := decode_list_map (Variant.decode_encode .mismatched) variants
      simp [decodeContent, kind, Value.ofMembers, Members.ofList, record, Members.decode,
        RecordField.of, Value.skipFault?, Kind.encode, hvariants, pure, Except.pure]
    | cloze v =>
      have hv := Variant.decode_encode .mismatched v
      simp [decodeContent, kind, Value.ofMembers, Members.ofList, record, Members.decode,
        RecordField.of, Value.skipFault?, Kind.encode, hv, pure, Except.pure]

end Layout

theorem Template.decode_encode (t : Template) : Template.decode t.encode = .ok t := by
  obtain ⟨id, name, created, updated, fields, layout, css⟩ := t
  have hid := Uuid.parse?_print id
  have hcreated := Timestamp.parse?_print created
  have hupdated := Timestamp.parse?_print updated
  have hfields := decode_list_map decodeFieldName_encode fields
  have hlayout := layout.decodeWithin_encode 123
  simp [Template.decode, Template.encode, record, Value.ofMembers, Members.ofList, Members.decode,
    Template.fields, RecordField.of, Layout.depthLimit, hid, hcreated, hupdated, hfields, hlayout,
    parsed, text, pure, Except.pure]

theorem Settings.decode_encode (s : Settings) : Settings.decode s.encode = .ok s := rfl

theorem SettingsPatch.decode_encode (p : SettingsPatch) :
    SettingsPatch.decode p.encode = .ok p := by
  obtain ⟨filler, front, back⟩ := p
  cases filler <;> cases front <;> cases back <;> rfl

end Flashcard
