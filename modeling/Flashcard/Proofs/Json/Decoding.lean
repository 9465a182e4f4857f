import Flashcard.Json.Record
import Mathlib.Data.List.Forall2
import Mathlib.Data.List.Pairwise

/-!
# What decoders accept

A value without a fault is *whole*. A list is decoded item by item. The members of a record may come
in any order: those that the record has fields for are stored, each once, and the others only have
to be whole (`decode_members_eq_ok_iff`). So the order matters no more than it matters to the stores
of the fields, and those of different fields commute (`Commutes`, `storeAll_perm`).
-/

namespace Flashcard

@[simp] theorem ok_bind {α β ε : Type} (a : α) (f : α → Except ε β) : Except.ok a >>= f = f a := rfl

theorem bind_eq_ok_iff {α β ε : Type} {x : Except ε α} {f : α → Except ε β} {b : β} :
    x >>= f = .ok b ↔ ∃ a, x = .ok a ∧ f a = .ok b := by
  cases x with
  | ok a =>
    change f a = .ok b ↔ _
    simp
  | error e => exact ⟨fun h => (nomatch h), fun ⟨_, h, _⟩ => (nomatch h)⟩

namespace Json

variable {α ρ : Type}

theorem Items.ofList_injective : Function.Injective Items.ofList := by
  intro vs
  induction vs with
  | nil => intro ws h; cases ws <;> cases h; rfl
  | cons v vs ih =>
    intro ws h
    cases ws with
    | nil => cases h
    | cons w ws =>
      obtain ⟨rfl, hrest⟩ := Items.item.inj h
      rw [ih hrest]

theorem Members.ofList_injective : Function.Injective Members.ofList := by
  intro ms
  induction ms with
  | nil => intro ns h; cases ns <;> cases h; rfl
  | cons m ms ih =>
    intro ns h
    cases ns with
    | nil => cases h
    | cons n ns =>
      obtain ⟨hkey, hvalue, hrest⟩ := Members.member.inj h
      rw [ih hrest, Prod.ext (Value.string.inj hkey) hvalue]

/-! ### Whole values -/

section Faults

variable (room : Nat) (v : Value) (items : Items) (members : Members)

theorem Items.readFault?_item :
    (item v items).readFault? room = (v.readFault? room).or (items.readFault? room) := rfl

theorem Members.readFault?_member (key : String) :
    (member (.string key) v members).readFault? room =
      (v.readFault? room).or (members.readFault? room) := rfl

theorem Value.readFault?_array : (array items).readFault? (room + 1) = items.readFault? room := rfl

theorem Value.readFault?_object :
    (object members).readFault? (room + 1) = members.readFault? room := rfl

theorem Items.skipFault?_item :
    (item v items).skipFault? = v.skipFault?.or items.skipFault? := rfl

theorem Members.skipFault?_member (key : String) :
    (member (.string key) v members).skipFault? = v.skipFault?.or members.skipFault? := rfl

end Faults

theorem Items.readFault?_ofList {room : Nat} {vs : List Value} :
    (ofList vs).readFault? room = none ↔ ∀ v ∈ vs, v.readFault? room = none := by
  induction vs with
  | nil => exact iff_of_true rfl (List.forall_mem_nil _)
  | cons v vs ih =>
    rw [ofList, readFault?_item, Option.or_eq_none_iff, ih, List.forall_mem_cons]

theorem Members.readFault?_ofList {room : Nat} {ms : List (String × Value)} :
    (ofList ms).readFault? room = none ↔ ∀ m ∈ ms, m.2.readFault? room = none := by
  induction ms with
  | nil => exact iff_of_true rfl (List.forall_mem_nil _)
  | cons m ms ih =>
    rw [ofList, readFault?_member, Option.or_eq_none_iff, ih, List.forall_mem_cons]

theorem Value.readFault?_ofItems {room : Nat} {vs : List Value} :
    (ofItems vs).readFault? (room + 1) = none ↔ ∀ v ∈ vs, v.readFault? room = none := by
  rw [ofItems, readFault?_array, Items.readFault?_ofList]

theorem Value.readFault?_ofMembers {room : Nat} {ms : List (String × Value)} :
    (ofMembers ms).readFault? (room + 1) = none ↔ ∀ m ∈ ms, m.2.readFault? room = none := by
  rw [ofMembers, readFault?_object, Members.readFault?_ofList]

/-- Whether a value has no fault that is met where it is passed over. -/
def Value.IsWhole (v : Value) : Prop := v.skipFault? = none

theorem Value.isWhole_ofItems {vs : List Value} : (ofItems vs).IsWhole ↔ ∀ v ∈ vs, v.IsWhole := by
  change (Items.ofList vs).skipFault? = none ↔ ∀ v ∈ vs, v.skipFault? = none
  induction vs with
  | nil => exact iff_of_true rfl (List.forall_mem_nil _)
  | cons v vs ih =>
    rw [Items.ofList, Items.skipFault?_item, Option.or_eq_none_iff, ih, List.forall_mem_cons]

theorem Value.isWhole_ofMembers {ms : List (String × Value)} :
    (ofMembers ms).IsWhole ↔ ∀ m ∈ ms, m.2.IsWhole := by
  change (Members.ofList ms).skipFault? = none ↔ ∀ m ∈ ms, m.2.skipFault? = none
  induction ms with
  | nil => exact iff_of_true rfl (List.forall_mem_nil _)
  | cons m ms ih =>
    rw [Members.ofList, Members.skipFault?_member, Option.or_eq_none_iff, ih, List.forall_mem_cons]

/-! ### Lists -/

theorem decode_items_eq_ok_iff {d : Decoder α} {vs : List Value} {as : List α} :
    (Items.ofList vs).decode d = .ok as ↔ List.Forall₂ (fun v a => d v = .ok a) vs as := by
  induction vs generalizing as with
  | nil => cases as <;> simp [Items.ofList, Items.decode]
  | cons v vs ih =>
    simp only [Items.ofList, Items.decode, bind_eq_ok_iff, List.forall₂_cons_left_iff, ih]
    constructor
    · rintro ⟨a, ha, as, has, ⟨⟩⟩
      exact ⟨a, as, ha, has, rfl⟩
    · rintro ⟨a, as, ha, has, rfl⟩
      exact ⟨a, ha, as, has, rfl⟩

theorem decode_list_map {d : Decoder α} {encode : α → Value} (h : ∀ a, d (encode a) = .ok a)
    (as : List α) : list d (.ofItems (as.map encode)) = .ok as := by
  refine decode_items_eq_ok_iff.2 ?_
  rw [List.forall₂_map_left_iff, List.forall₂_same]
  exact fun a _ => h a

/-! ### Records -/

/-- Whether two fields may be stored in either order. -/
def RecordField.Commutes (f g : RecordField ρ) : Prop :=
  ∀ v w r r', (f.store v r >>= g.store w) = .ok r' ↔ (g.store w r >>= f.store v) = .ok r'

theorem RecordField.Commutes.symm {f g : RecordField ρ} (h : f.Commutes g) : g.Commutes f :=
  fun v w r r' => (h w v r r').symm

instance : Std.Symm (@RecordField.Commutes ρ) := ⟨fun _ _ h => h.symm⟩

theorem RecordField.store_of_eq_ok_iff {name : String} {presence : Presence} {d : Decoder α}
    {put : α → ρ → ρ} {v : Value} {r r' : ρ} :
    (RecordField.of name presence d put).store v r = .ok r' ↔ ∃ a, d v = .ok a ∧ put a r = r' := by
  simp only [RecordField.of, bind_eq_ok_iff, pure, Except.pure, Except.ok.injEq]

theorem RecordField.commutes_of {β : Type} {name name' : String} {presence presence' : Presence}
    {d : Decoder α} {d' : Decoder β} {put : α → ρ → ρ} {put' : β → ρ → ρ}
    (h : ∀ a b r, put' b (put a r) = put a (put' b r)) :
    (RecordField.of name presence d put).Commutes (.of name' presence' d' put') := by
  intro v w r r'
  simp only [bind_eq_ok_iff, store_of_eq_ok_iff]
  constructor
  · rintro ⟨-, ⟨a, ha, rfl⟩, b, hb, rfl⟩
    exact ⟨_, ⟨b, hb, rfl⟩, a, ha, (h a b r).symm⟩
  · rintro ⟨-, ⟨b, hb, rfl⟩, a, ha, rfl⟩
    exact ⟨_, ⟨a, ha, rfl⟩, b, hb, h a b r⟩

/-- The members that there are fields for, with these. -/
def known (fields : List (RecordField ρ)) (ms : List (String × Value)) :
    List (RecordField ρ × Value) :=
  ms.filterMap fun m => (fields.find? (·.name == m.1)).map fun field => (field, m.2)

/-- Stores values one after another. -/
def storeAll (entries : List (RecordField ρ × Value)) (r : ρ) : Except Fault ρ :=
  entries.foldlM (fun r entry => entry.1.store entry.2 r) r

theorem storeAll_perm {entries others : List (RecordField ρ × Value)} (hperm : entries.Perm others)
    (h : entries.Pairwise fun a b => a.1.Commutes b.1) {r r' : ρ} :
    storeAll entries r = .ok r' ↔ storeAll others r = .ok r' := by
  induction hperm generalizing r with
  | nil => rfl
  | cons a _ ih =>
    simp only [storeAll, List.foldlM_cons, bind_eq_ok_iff]
    exact exists_congr fun s => and_congr_right fun _ => ih (List.pairwise_cons.1 h).2
  | swap a b entries =>
    have hba := (List.pairwise_cons.1 h).1 a List.mem_cons_self
    simp only [storeAll, List.foldlM_cons, ← bind_assoc]
    rw [bind_eq_ok_iff, bind_eq_ok_iff]
    exact exists_congr fun s => and_congr_left fun _ => hba _ _ _ _
  | trans hperm _ ih ih' =>
    exact (ih h).trans (ih' ((hperm.pairwise_iff RecordField.Commutes.symm).1 h))

/-- Whether the members are those of a record, where `seen` names fields that have been met. -/
structure Accepts (fields : List (RecordField ρ)) (seen : List String)
    (ms : List (String × Value)) : Prop where
  unknown : ∀ m ∈ ms, fields.find? (·.name == m.1) = none → m.2.IsWhole
  nodup : ((known fields ms).map fun entry => entry.1.name).Nodup
  fresh : ∀ entry ∈ known fields ms, entry.1.name ∉ seen
  required : ∀ field ∈ fields, field.presence = .required →
    field.name ∈ seen ∨ field.name ∈ (known fields ms).map fun entry => entry.1.name

theorem mem_known {fields : List (RecordField ρ)} {ms : List (String × Value)}
    {entry : RecordField ρ × Value} (h : entry ∈ known fields ms) :
    entry.1 ∈ fields ∧ (entry.1.name, entry.2) ∈ ms := by
  obtain ⟨⟨name, v⟩, hm, hentry⟩ := List.mem_filterMap.1 h
  obtain ⟨field, hfind, rfl⟩ := Option.map_eq_some_iff.1 hentry
  obtain rfl : field.name = name := by simpa using List.find?_some hfind
  exact ⟨List.mem_of_find?_eq_some hfind, hm⟩

section Cons

variable {fields : List (RecordField ρ)} {seen : List String} {m : String × Value}
  {ms : List (String × Value)} {field : RecordField ρ}

theorem known_cons_of_unknown (h : fields.find? (·.name == m.1) = none) :
    known fields (m :: ms) = known fields ms := by
  simp [known, h]

theorem known_cons_of_known (h : fields.find? (·.name == m.1) = some field) :
    known fields (m :: ms) = (field, m.2) :: known fields ms := by
  simp [known, h]

theorem accepts_cons_of_unknown (h : fields.find? (·.name == m.1) = none) :
    Accepts fields seen (m :: ms) ↔ m.2.IsWhole ∧ Accepts fields seen ms := by
  constructor
  · rintro ⟨hunknown, hnodup, hfresh, hrequired⟩
    rw [known_cons_of_unknown h] at hnodup hfresh hrequired
    obtain ⟨hm, hunknown⟩ := List.forall_mem_cons.1 hunknown
    exact ⟨hm h, hunknown, hnodup, hfresh, hrequired⟩
  · rintro ⟨hm, hunknown, hnodup, hfresh, hrequired⟩
    rw [← known_cons_of_unknown h] at hnodup hfresh hrequired
    exact ⟨List.forall_mem_cons.2 ⟨fun _ => hm, hunknown⟩, hnodup, hfresh, hrequired⟩

theorem accepts_cons_of_known (h : fields.find? (·.name == m.1) = some field) :
    Accepts fields seen (m :: ms) ↔ m.1 ∉ seen ∧ Accepts fields (m.1 :: seen) ms := by
  have hname : field.name = m.1 := by simpa using List.find?_some h
  constructor
  · rintro ⟨hunknown, hnodup, hfresh, hrequired⟩
    rw [known_cons_of_known h] at hnodup hfresh hrequired
    rw [List.map_cons, List.nodup_cons, hname] at hnodup
    rw [List.forall_mem_cons, hname] at hfresh
    refine ⟨hfresh.1, fun n hn => hunknown n (.tail _ hn), hnodup.2, ?_, ?_⟩
    · grind
    · grind
  · rintro ⟨hseen, hunknown, hnodup, hfresh, hrequired⟩
    have hnew : m.1 ∉ (known fields ms).map fun entry => entry.1.name := by grind
    refine ⟨List.forall_mem_cons.2 ⟨fun hnone => ?_, hunknown⟩, ?_, ?_, ?_⟩
    · rw [h] at hnone
      cases hnone
    · rw [known_cons_of_known h, List.map_cons, List.nodup_cons, hname]
      exact ⟨hnew, hnodup⟩
    · grind [known_cons_of_known h]
    · grind [known_cons_of_known h]

end Cons

/-- Members are decoded if they are those of a record and their values can be stored, in the order
in which they come. -/
theorem decode_members_eq_ok_iff {fields : List (RecordField ρ)} {seen : List String}
    {ms : List (String × Value)} {r r' : ρ} :
    (Members.ofList ms).decode fields seen r = .ok r' ↔
      Accepts fields seen ms ∧ storeAll (known fields ms) r = .ok r' := by
  induction ms generalizing seen r with
  | nil =>
    rw [Members.ofList, Members.decode, storeAll]
    have hall : (fields.all fun field => field.presence != .required || seen.contains field.name) ↔
        Accepts fields seen [] := by
      simp only [List.all_eq_true, Bool.or_eq_true, bne_iff_ne, List.contains_iff_mem]
      exact ⟨fun h => ⟨by simp, .nil, by simp [known], by grind [known]⟩,
        fun h field hfield => by grind [h.required field hfield, known]⟩
    split
    · next h => simp [hall.1 h, known, pure, Except.pure]
    · next h => simp [mt hall.2 h]
  | cons m ms ih =>
    obtain ⟨name, v⟩ := m
    cases hfind : fields.find? (·.name == name) with
    | none =>
      rw [accepts_cons_of_unknown hfind, known_cons_of_unknown hfind, Members.ofList,
        Members.decode, hfind, Value.IsWhole]
      cases v.skipFault? with
      | none => simp [ih]
      | some f => simp
    | some field =>
      rw [accepts_cons_of_known hfind, known_cons_of_known hfind, Members.ofList, Members.decode,
        hfind, storeAll, List.foldlM_cons]
      by_cases hseen : name ∈ seen
      · simp [hseen]
      · simp only [List.contains_iff_mem, hseen, if_false, bind_eq_ok_iff, ih, not_false_eq_true,
          true_and]
        exact ⟨fun ⟨s, hs, haccepts, hstore⟩ => ⟨haccepts, s, hs, hstore⟩,
          fun ⟨haccepts, s, hs, hstore⟩ => ⟨s, hs, haccepts, hstore⟩⟩

end Json

end Flashcard
