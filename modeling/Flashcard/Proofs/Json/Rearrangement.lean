import Flashcard.Proofs.Json.Decoding

/-!
# Rearranged values

A `Rearrangement` says what a value may be turned into without a change of what it means. The
members of a record may change places, and others of unknown names may come in (`record`); the parts
of a record and the items of a list may be rearranged in their turn. A decoder is stable under
a rearrangement if it reads the same from the value that comes out, as long as that is whole.
-/

namespace Flashcard.Json

/-- What a value may be turned into. -/
abbrev Rearrangement := Value → Value → Prop

namespace Rearrangement

/-- Each item of a list may be rearranged. -/
inductive list (R : Rearrangement) : Rearrangement
  | same (v : Value) : list R v v
  | items {vs ws : List Value} (h : List.Forall₂ R vs ws) : list R (.ofItems vs) (.ofItems ws)

/-- The value of a member may be rearranged as the part of that name. -/
inductive OfMember (parts : List (String × Rearrangement)) : String × Value → String × Value → Prop
  | same (m : String × Value) : OfMember parts m m
  | part {name : String} {R : Rearrangement} {v w : Value} (hpart : (name, R) ∈ parts) (h : R v w) :
    OfMember parts (name, v) (name, w)

/-- The items may be rearranged as the parts in the same places. -/
inductive OfItems : List (String × Rearrangement) → List Value → List Value → Prop
  | nil (parts : List (String × Rearrangement)) : OfItems parts [] []
  | cons {name : String} {R : Rearrangement} {parts : List (String × Rearrangement)} {v w : Value}
    {vs ws : List Value} (h : R v w) (hrest : OfItems parts vs ws) :
    OfItems ((name, R) :: parts) (v :: vs) (w :: ws)

/-- The members of a record with these parts may change places, and members of other names may be
added. -/
inductive record (parts : List (String × Rearrangement)) : Rearrangement
  | same (v : Value) : record parts v v
  | members {ms kept added ms' : List (String × Value)}
    (hkept : List.Forall₂ (OfMember parts) ms kept)
    (hadded : ∀ m ∈ added, m.1 ∉ parts.map Prod.fst) (hperm : ms'.Perm (kept ++ added)) :
    record parts (.ofMembers ms) (.ofMembers ms')
  | items {vs ws : List Value} (h : OfItems parts vs ws) : record parts (.ofItems vs) (.ofItems ws)

/-- Only members of unknown names may come in, and all may change places. -/
def plain (names : List String) : Rearrangement := record (names.map fun name => (name, Eq))

theorem OfMember.name_eq {parts : List (String × Rearrangement)} {m n : String × Value}
    (h : OfMember parts m n) : n.1 = m.1 := by
  cases h <;> rfl

end Rearrangement

section Fixed

variable {parts : List (String × Rearrangement)} {name : String}
  {ms kept added ms' : List (String × Value)}

theorem filter_eq_of_ofMember (hname : ∀ R, (name, R) ∈ parts → R = Eq)
    (h : List.Forall₂ (Rearrangement.OfMember parts) ms kept) :
    kept.filter (·.1 == name) = ms.filter (·.1 == name) := by
  induction h with
  | nil => rfl
  | @cons m n ms kept hm _ ih =>
    by_cases hmatch : m.1 = name
    · have hn : n = m := by
        cases hm with
        | same => rfl
        | @part _ R v w hpart hR =>
          obtain rfl : _ = name := hmatch
          have hR : v = w := hname R hpart ▸ hR
          rw [hR]
      rw [hn, List.filter_cons_of_pos (by simpa), List.filter_cons_of_pos (by simpa), ih]
    · rw [List.filter_cons_of_neg (by simpa [hm.name_eq]), List.filter_cons_of_neg (by simpa), ih]

/-- The members of a part that is never rearranged stay, and none are added to them. -/
theorem filter_perm_of_members (hmem : name ∈ parts.map Prod.fst)
    (hname : ∀ R, (name, R) ∈ parts → R = Eq)
    (hkept : List.Forall₂ (Rearrangement.OfMember parts) ms kept)
    (hadded : ∀ m ∈ added, m.1 ∉ parts.map Prod.fst) (hperm : ms'.Perm (kept ++ added)) :
    (ms'.filter (·.1 == name)).Perm (ms.filter (·.1 == name)) := by
  have hnone : added.filter (·.1 == name) = [] :=
    List.filter_eq_nil_iff.2 fun m hm heq => hadded m hm (beq_iff_eq.1 heq ▸ hmem)
  have hfilter := hperm.filter (·.1 == name)
  rwa [List.filter_append, hnone, List.append_nil, filter_eq_of_ofMember hname hkept] at hfilter

end Fixed

variable {α ρ : Type}

/-- Whether a rearranged value decodes to the same. -/
def Stable (d : Decoder α) (R : Rearrangement) : Prop :=
  ∀ ⦃v w⦄, R v w → w.IsWhole → ∀ ⦃a⦄, d v = .ok a → d w = .ok a

theorem stable_eq (d : Decoder α) : Stable d Eq := by
  rintro v w rfl - a h
  exact h

theorem Stable.list {d : Decoder α} {R : Rearrangement} (h : Stable d R) :
    Stable (list d) (Rearrangement.list R) := by
  rintro v w (_ | @⟨vs, ws, hitems⟩) hwhole as hv
  · exact hv
  replace hwhole : ∀ w ∈ ws, w.IsWhole := Value.isWhole_ofItems.1 hwhole
  replace hv : List.Forall₂ (fun v a => d v = .ok a) vs as := decode_items_eq_ok_iff.1 hv
  refine decode_items_eq_ok_iff.2 ?_
  induction hitems generalizing as with
  | nil => exact hv
  | cons hR _ ih =>
    obtain ⟨a, as, ha, has, rfl⟩ := List.forall₂_cons_left_iff.1 hv
    obtain ⟨hw, hrest⟩ := List.forall_mem_cons.1 hwhole
    exact .cons (h hR hw ha) (ih hrest has)

/-- Whether a rearranged value is stored like the value itself. -/
def RecordField.Stable (field : RecordField ρ) (R : Rearrangement) : Prop :=
  ∀ ⦃v w⦄, R v w → w.IsWhole → ∀ ⦃r r'⦄, field.store v r = .ok r' → field.store w r = .ok r'

theorem RecordField.stable_eq (field : RecordField ρ) : field.Stable Eq := by
  rintro v w rfl - r r' hv
  exact hv

theorem RecordField.stable_of {name : String} {presence : Presence} {d : Decoder α}
    {put : α → ρ → ρ} {R : Rearrangement} (h : Json.Stable d R) :
    (RecordField.of name presence d put).Stable R := by
  intro v w hR hwhole r r' hv
  obtain ⟨a, ha, hput⟩ := store_of_eq_ok_iff.1 hv
  exact store_of_eq_ok_iff.2 ⟨a, h hR hwhole ha, hput⟩

section Record

variable {fields : List (RecordField ρ)} {parts : List (String × Rearrangement)}
  {ms kept added ms' : List (String × Value)} {r r' : ρ}

/-- What is stored after members have been rearranged: the same fields, with rearranged values. -/
theorem known_of_ofMember (fields : List (RecordField ρ))
    (h : List.Forall₂ (Rearrangement.OfMember parts) ms kept) :
    List.Forall₂
      (fun a b => b.1 = a.1 ∧ Rearrangement.OfMember parts (a.1.name, a.2) (b.1.name, b.2))
      (known fields ms) (known fields kept) := by
  induction h with
  | nil => exact .nil
  | @cons m n ms kept hm _ ih =>
    cases hfind : fields.find? (·.name == m.1) with
    | none => rwa [known_cons_of_unknown hfind, known_cons_of_unknown (hm.name_eq ▸ hfind)]
    | some field =>
      rw [known_cons_of_known hfind, known_cons_of_known (hm.name_eq ▸ hfind)]
      have hname : field.name = m.1 := by simpa using List.find?_some hfind
      refine .cons ⟨rfl, ?_⟩ ih
      rw [hname]
      nth_rewrite 2 [← hm.name_eq]
      exact hm

theorem storeAll_of_ofMember {entries others : List (RecordField ρ × Value)}
    (h : List.Forall₂
      (fun a b => b.1 = a.1 ∧ Rearrangement.OfMember parts (a.1.name, a.2) (b.1.name, b.2))
      entries others)
    (hstable : ∀ entry ∈ entries, ∀ R, (entry.1.name, R) ∈ parts → entry.1.Stable R)
    (hwhole : ∀ entry ∈ others, entry.2.IsWhole) (hstore : storeAll entries r = .ok r') :
    storeAll others r = .ok r' := by
  induction h generalizing r with
  | nil => exact hstore
  | @cons a b entries others hab _ ih =>
    obtain ⟨f, v⟩ := a
    obtain ⟨g, w⟩ := b
    obtain ⟨rfl : g = f, hmember⟩ := hab
    obtain ⟨hg, hrest⟩ := List.forall_mem_cons.1 hstable
    obtain ⟨hw, hwhole⟩ := List.forall_mem_cons.1 hwhole
    rw [storeAll, List.foldlM_cons, bind_eq_ok_iff] at hstore ⊢
    obtain ⟨s, hs, hstore⟩ := hstore
    refine ⟨s, ?_, ih hrest hwhole hstore⟩
    cases hmember with
    | same => exact hs
    | part hpart hR => exact hg _ hpart hR hw hs

theorem known_eq_nil (hnames : ∀ field ∈ fields, field.name ∈ parts.map Prod.fst)
    (hadded : ∀ m ∈ added, m.1 ∉ parts.map Prod.fst) : known fields added = [] := by
  refine List.filterMap_eq_nil_iff.2 fun m hm => Option.map_eq_none_iff.2 ?_
  refine List.find?_eq_none.2 fun field hfield hname => hadded m hm ?_
  rw [← beq_iff_eq.1 hname]
  exact hnames field hfield

/-- A record is decoded from rearranged members as from the members themselves. -/
theorem decode_members_rearranged (hcomm : fields.Pairwise RecordField.Commutes)
    (hnames : ∀ field ∈ fields, field.name ∈ parts.map Prod.fst)
    (hstable : ∀ field ∈ fields, ∀ R, (field.name, R) ∈ parts →
      field.Stable R)
    (hkept : List.Forall₂ (Rearrangement.OfMember parts) ms kept)
    (hadded : ∀ m ∈ added, m.1 ∉ parts.map Prod.fst) (hperm : ms'.Perm (kept ++ added))
    (hwhole : ∀ m ∈ ms', m.2.IsWhole)
    (hdecode : (Members.ofList ms).decode fields [] r = .ok r') :
    (Members.ofList ms').decode fields [] r = .ok r' := by
  obtain ⟨haccepts, hstore⟩ := decode_members_eq_ok_iff.1 hdecode
  have hentries := known_of_ofMember fields hkept
  have hknown : (known fields ms').Perm (known fields kept) := by
    have := hperm.filterMap fun m =>
      (fields.find? (·.name == m.1)).map fun field => (field, m.2)
    rwa [List.filterMap_append, ← known, ← known, ← known, known_eq_nil hnames hadded,
      List.append_nil] at this
  have hsame : (known fields kept).map Prod.fst = (known fields ms).map Prod.fst := by
    refine (congrFun₂ List.forall₂_eq_eq_eq _ _).mp (List.forall₂_map_left_iff.2 ?_)
    exact List.forall₂_map_right_iff.2 (hentries.flip.imp fun a b h => h.1)
  have hfields : ((known fields ms').map fun entry => entry.1.name).Perm
      ((known fields ms).map fun entry => entry.1.name) := by
    have := (hknown.map Prod.fst).map RecordField.name
    rwa [hsame, List.map_map, List.map_map] at this
  have hnodup := hfields.nodup_iff.2 haccepts.nodup
  refine decode_members_eq_ok_iff.2 ⟨⟨?_, hnodup, by simp, ?_⟩, ?_⟩
  · exact fun m hm _ => hwhole m hm
  · intro field hfield hrequired
    rw [hfields.mem_iff]
    exact haccepts.required field hfield hrequired
  · have hkeptStore : storeAll (known fields kept) r = .ok r' :=
      storeAll_of_ofMember hentries (fun entry hentry => hstable entry.1 (mem_known hentry).1)
        (fun entry hentry => hwhole _ (mem_known (hknown.mem_iff.2 hentry)).2) hstore
    refine (storeAll_perm hknown ?_).2 hkeptStore
    refine (List.pairwise_map.1 hnodup).imp_of_mem fun {a b} ha hb hne => ?_
    exact hcomm.forall (mem_known ha).1 (mem_known hb).1 fun h => hne (congrArg _ h)

/-- A record is decoded from rearranged items as from the items themselves. -/
theorem decode_items_rearranged {excess : Fault}
    (hfields : List.Forall₂ (fun field part => field.Stable part.2) fields parts)
    {vs ws : List Value} (h : Rearrangement.OfItems parts vs ws)
    (hwhole : ∀ w ∈ ws, w.IsWhole)
    (hdecode : (Items.ofList vs).decodeFields excess fields r = .ok r') :
    (Items.ofList ws).decodeFields excess fields r = .ok r' := by
  induction h generalizing fields r with
  | nil => exact hdecode
  | cons hR _ ih =>
    obtain ⟨hw, hwhole⟩ := List.forall_mem_cons.1 hwhole
    cases hfields with
    | cons hfield hrest =>
      rw [Items.ofList, Items.decodeFields, bind_eq_ok_iff] at hdecode ⊢
      obtain ⟨s, hs, hdecode⟩ := hdecode
      exact ⟨s, hfield hR hw hs, ih hrest hwhole hdecode⟩

/-- Whether the fields of a record are its parts, each as stable as its part may be rearranged. -/
def StableParts (fields : List (RecordField ρ))
    (parts : List (String × Rearrangement)) : Prop :=
  List.Forall₂ (fun field part => field.name = part.1 ∧ field.Stable part.2) fields parts

theorem StableParts.name_mem (h : StableParts fields parts) :
    ∀ field ∈ fields, field.name ∈ parts.map Prod.fst := by
  induction h with
  | nil => simp
  | cons hpart _ ih =>
    refine List.forall_mem_cons.2 ⟨hpart.1 ▸ List.mem_cons_self, fun field hfield => ?_⟩
    exact List.mem_cons_of_mem _ (ih field hfield)

/-- With no name twice, the part of a field is the one in its place. -/
theorem StableParts.stable (h : StableParts fields parts)
    (hnodup : (parts.map Prod.fst).Nodup) :
    ∀ field ∈ fields, ∀ R, (field.name, R) ∈ parts → field.Stable R := by
  induction h with
  | nil => simp
  | @cons f p fields parts hpart hrest ih =>
    obtain ⟨hnew, hnodup⟩ := List.nodup_cons.1 hnodup
    refine List.forall_mem_cons.2 ⟨fun R hR => ?_, fun field hfield R hR => ?_⟩
    · obtain rfl | hR := List.mem_cons.1 hR
      · exact hpart.2
      · exact absurd (List.mem_map_of_mem hR) (hpart.1 ▸ hnew)
    · obtain rfl | hR := List.mem_cons.1 hR
      · exact absurd (StableParts.name_mem hrest field hfield) hnew
      · exact ih hnodup field hfield R hR

theorem Stable.record {excess : Fault} {blank : ρ} (hcomm : fields.Pairwise RecordField.Commutes)
    (hnodup : (parts.map Prod.fst).Nodup) (h : StableParts fields parts) :
    Stable (record excess fields blank) (Rearrangement.record parts) := by
  rintro v w (_ | ⟨hkept, hadded, hperm⟩ | hitems) hwhole a hv
  · exact hv
  · exact decode_members_rearranged hcomm h.name_mem (h.stable hnodup) hkept hadded hperm
      (Value.isWhole_ofMembers.1 hwhole) hv
  · exact decode_items_rearranged (h.imp fun field part hpart => hpart.2) hitems
      (Value.isWhole_ofItems.1 hwhole) hv

theorem Stable.plain {excess : Fault} {blank : ρ} (hcomm : fields.Pairwise RecordField.Commutes)
    (hnodup : (fields.map RecordField.name).Nodup) :
    Stable (Json.record excess fields blank)
      (Rearrangement.plain (fields.map RecordField.name)) := by
  refine Stable.record hcomm ?_ ?_
  · rwa [List.map_map, List.map_map]
  · rw [List.map_map, StableParts, List.forall₂_map_right_iff, List.forall₂_same]
    exact fun field _ => ⟨rfl, field.stable_eq⟩

end Record

end Flashcard.Json
