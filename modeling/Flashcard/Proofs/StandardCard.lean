import Flashcard.Proofs.FieldReading

/-!
# Standard cards as trees

On plain templates the built-in steps evaluate the tree of the template: `card_standard` says that
both sides of a card are the values of their trees, whatever the order of the fields.

A name is plain when no directive of another field can be taken for a directive of its own.
-/

namespace Flashcard

/-- A name that no keyword and no sign of a directive begins. -/
structure PlainName (name : String) : Prop where
  braceFree : BraceFree name.toList
  not_sign : ∀ c ∈ TemplateTree.sectionSigns, ¬ [c] <+: name.toList
  not_text : ¬ textKeyword <+: name.toList
  not_slot : ¬ slotKeyword <+: foldText name.toList
  ne_frontSide : name ≠ "FrontSide"

/-- The references of plain templates. -/
def PlainReference : Reference → Prop
  | .value name => PlainName name
  | .text name => PlainName name
  | .slot _ => False
  | .frontSide => False

/-- The references of plain backs. -/
def PlainBackReference (r : Reference) : Prop := PlainReference r ∨ r = .frontSide

/-- Fields that plain templates can be filled with. -/
structure PlainFields (stripper : Stripper) (fields : FieldValues) : Prop where
  plain : ∀ field ∈ fields, PlainName field.1
  distinct : fields.Pairwise fun field other => field.1 ≠ other.1
  value_braceFree : ∀ field ∈ fields, BraceFree field.2.toList
  stripped_braceFree : ∀ field ∈ fields, BraceFree (stripper field.2).toList

/-- What the fields of a note say about a template, where `front` is the front to show on the
back. -/
def Reading.ofNote (stripper : Stripper) (fields : FieldValues) (front : Option String) :
    Reading where
  shown
    | .value name => fields.lookup name
    | .text name => (fields.lookup name).map stripper
    | .slot _ => none
    | .frontSide => front
  shows kind name := (fields.lookup name).map kind.shows

open TemplateTree

theorem PlainName.distinguishes {name : String} (h : PlainName name) :
    Distinguishes PlainBackReference PlainName name where
  braceFree := h.braceFree
  inner_braceFree := by
    rintro (n | n | n | _) hr
    · obtain hr | hr := hr
      · exact hr.braceFree
      · cases hr
    · obtain hr | hr := hr
      · exact braceFree_append.2 ⟨by decide, hr.braceFree⟩
      · cases hr
    · obtain hr | hr := hr <;> cases hr
    · decide
  section_braceFree := fun m hm => hm.braceFree
  value := by
    rintro (n | n | n | _) hr heq
    · exact congrArg Reference.value (String.toList_inj.1 heq)
    · exact absurd ⟨n.toList, heq⟩ h.not_text
    · obtain hr | hr := hr <;> cases hr
    · exact absurd (String.toList_inj.1 heq).symm h.ne_frontSide
  text := by
    rintro (n | n | n | _) hr heq
    · obtain hr | hr := hr
      · exact absurd ⟨name.toList, heq.symm⟩ hr.not_text
      · cases hr
    · exact congrArg Reference.text (String.toList_inj.1 (List.append_cancel_left heq))
    · obtain hr | hr := hr <;> cases hr
    · exact absurd (List.cons.inj heq).1 (by decide)
  slot := by
    rintro (n | n | n | _) hr heq
    · obtain hr | hr := hr
      · refine absurd ⟨foldText name.toList, ?_⟩ hr.not_slot
        rw [Slot.inner, foldText_append, Slot.foldText_slotKeyword] at heq
        exact heq.symm
      · cases hr
    · exact absurd (List.cons.inj heq).1 (by decide)
    · exact ⟨n, rfl⟩
    · exact absurd (List.cons.inj heq).1 (by decide)
  reference_ne := by
    rintro (n | n | n | _) c hr hc heq
    · obtain hr | hr := hr
      · exact hr.not_sign c hc ⟨name.toList, heq.symm⟩
      · cases hr
    · exact absurd ((List.cons.inj heq).1 ▸ hc) (by decide)
    · obtain hr | hr := hr <;> cases hr
    · exact absurd ((List.cons.inj heq).1 ▸ hc) (by decide)
  section_ne := fun m c _ hc heq => h.not_sign c hc ⟨m.toList, heq⟩

section Fields

variable {stripper : Stripper} {fields : FieldValues}

theorem lookup_eq_some_iff_mem (h : fields.Pairwise fun field other => field.1 ≠ other.1)
    {name value : String} : fields.lookup name = some value ↔ (name, value) ∈ fields := by
  induction fields with
  | nil => simp
  | cons field fields ih =>
    obtain ⟨n, v⟩ := field
    obtain ⟨hne, hrest⟩ := List.pairwise_cons.1 h
    by_cases hname : name = n
    · subst hname
      have hnone : (name, value) ∉ fields := fun hmem => hne _ hmem rfl
      simp [hnone, eq_comm]
    · have hbeq : (name == n) = false := by simpa using hname
      simp [List.lookup_cons, hbeq, hname, ih hrest]

theorem lookup_eq_of_perm {given : FieldValues} (hperm : given.Perm fields)
    (h : fields.Pairwise fun field other => field.1 ≠ other.1) (name : String) :
    given.lookup name = fields.lookup name := by
  have hgiven := hperm.symm.pairwise h fun hne => hne.symm
  refine Option.ext fun value => ?_
  rw [lookup_eq_some_iff_mem hgiven, lookup_eq_some_iff_mem h, hperm.mem_iff]

theorem ofNote_eq_of_perm {given : FieldValues} (hperm : given.Perm fields)
    (h : fields.Pairwise fun field other => field.1 ≠ other.1) (front : Option String) :
    Reading.ofNote stripper given front = Reading.ofNote stripper fields front := by
  simp only [Reading.ofNote, lookup_eq_of_perm hperm h]

theorem PlainFields.quiet_ofField (h : PlainFields stripper fields) (settings : Settings)
    (side : Side) :
    ∀ field ∈ views stripper settings side fields, Quiet PlainBackReference (.ofField field) := by
  intro view hview
  obtain ⟨field, hfield, rfl⟩ := List.mem_map.1 hview
  rintro (n | n | n | _) s hr hs
  · obtain ⟨-, rfl⟩ : n = field.1 ∧ field.2 = s := by simpa [Reading.ofField] using hs
    exact (h.value_braceFree field hfield).1
  · obtain ⟨-, rfl⟩ : n = field.1 ∧ stripper field.2 = s := by simpa [Reading.ofField] using hs
    exact (h.stripped_braceFree field hfield).1
  · obtain hr | hr := hr <;> cases hr
  · cases hs

theorem quiet_ofFields {P : Reference → Prop} {fields : List FieldView}
    (h : ∀ field ∈ fields, Quiet P (.ofField field)) : Quiet P (.ofFields fields) := by
  intro r s hr hs
  obtain ⟨field, hfield, hsome⟩ := List.exists_of_findSome?_eq_some hs
  exact h field hfield r s hr hsome

theorem findSome?_views {α : Type} (f : FieldView → α) (settings : Settings) (side : Side)
    (name : String) :
    ((views stripper settings side fields).findSome? fun field =>
      if name = field.name then some (f field) else none) =
      (fields.lookup name).map fun value => f ⟨name, value, side, stripper, settings⟩ := by
  induction fields with
  | nil => rfl
  | cons field fields ih =>
    obtain ⟨n, v⟩ := field
    rw [views] at ih ⊢
    rw [List.map_cons, List.findSome?_cons, ih, List.lookup_cons]
    by_cases hn : name = n
    · simp [hn]
    · have hbeq : (name == n) = false := by simpa using hn
      simp [hn, hbeq]

/-- What the fields make known, asked for by name. -/
theorem shown_ofFields_views (settings : Settings) (side : Side) {r : Reference}
    (hr : PlainBackReference r) :
    (Reading.ofFields (views stripper settings side fields)).shown r =
      (Reading.ofNote stripper fields none).shown r := by
  cases r with
  | value n =>
    exact (findSome?_views FieldView.value settings side n).trans (Option.map_id' ..)
  | text n => exact findSome?_views (fun field => field.stripper field.value) settings side n
  | slot n => obtain hr | hr := hr <;> cases hr
  | frontSide => exact List.findSome?_eq_none_iff.2 fun _ _ => rfl

theorem shows_ofFields_views (settings : Settings) (side : Side) (kind : Section)
    (name : String) :
    (Reading.ofFields (views stripper settings side fields)).shows kind name =
      (Reading.ofNote stripper fields none).shows kind name :=
  findSome?_views (fun field => kind.shows field.value) settings side name

/-- The built-in steps evaluate what the fields know, on both sides. -/
theorem PlainFields.builtInText_read (h : PlainFields stripper fields) (settings : Settings)
    (side : Side) {t : TemplateTree} (ht : t.WellFormed PlainBackReference PlainName) :
    builtInText stripper settings side fields (t.read {}) =
      t.read (.ofFields (views stripper settings side fields)) := by
  have hnothing : Quiet PlainBackReference {} := fun r s _ hs => by simp at hs
  rw [TemplateTree.builtInText_read stripper settings side fields ht hnothing fun view hview => ?_,
    Reading.nothing_orElse]
  refine ⟨?_, h.quiet_ofField settings side view hview⟩
  obtain ⟨field, hfield, rfl⟩ := List.mem_map.1 hview
  exact (h.plain field hfield).distinguishes

/-- On a front nothing asks for the front. -/
theorem read_front_ofNote {t : TemplateTree} (ht : t.WellFormed PlainReference PlainName)
    (settings : Settings) (side : Side) (front : Option String) :
    t.read (.ofFields (views stripper settings side fields)) =
      t.read (.ofNote stripper fields front) := by
  refine read_congr ht (fun r hr => ?_) fun kind name _ _ => ?_
  · rw [shown_ofFields_views settings side (.inl hr)]
    cases r <;> first | rfl | cases hr
  · exact shows_ofFields_views settings side kind name

theorem rewrite_frontSide_back (h : PlainFields stripper fields) (settings : Settings)
    (w : List Char) {t : TemplateTree} (ht : t.WellFormed PlainBackReference PlainName) :
    Renderer.frontSide.rewrite (fun _ => w)
        (builtInText stripper settings .back fields (t.read {})) =
      t.read (.ofNote stripper fields (some (String.ofList w))) := by
  have hquiet := quiet_ofFields (h.quiet_ofField settings .back)
  rw [h.builtInText_read settings .back ht, rewrite_frontSide_read w ht hquiet]
  · refine read_congr ht (fun r hr => ?_) fun kind name _ _ => ?_
    · simp only [Reading.withShown, shown_ofFields_views settings .back hr]
      cases r <;> simp [Reading.ofNote]
    · exact shows_ofFields_views settings .back kind name
  · rintro (n | n | n | _) hr
    · obtain hr | hr := hr
      · exact ⟨hr.braceFree, fun heq => absurd (String.toList_inj.1 heq) hr.ne_frontSide⟩
      · cases hr
    · obtain hr | hr := hr
      · exact ⟨braceFree_append.2 ⟨by decide, hr.braceFree⟩,
          fun heq => absurd (List.cons.inj heq).1 (by decide)⟩
      · cases hr
    · obtain hr | hr := hr <;> cases hr
    · exact ⟨by decide, fun _ => rfl⟩
  · exact fun m hm => hm.braceFree

/-- Of the two sections of a field, one is its body and the other is nothing. -/
theorem eval_conditional_of_mem (hfields : PlainFields stripper fields) {name value : String}
    (hmem : (name, value) ∈ fields) (body : TemplateTree) (front : Option String) :
    ((TemplateTree.conditional .present name body).eval (.ofNote stripper fields front),
      (TemplateTree.conditional .blank name body).eval (.ofNote stripper fields front)) =
      if isBlank value then ("", body.eval (.ofNote stripper fields front))
      else (body.eval (.ofNote stripper fields front), "") := by
  have hshows (kind : Section) :
      (Reading.ofNote stripper fields front).shows kind name = some (kind.shows value) := by
    simp only [Reading.ofNote, (lookup_eq_some_iff_mem hfields.distinct).2 hmem, Option.map_some]
  cases hblank : isBlank value <;>
    simp [eval, TemplateTree.read, hshows, Section.shows, hblank]

/-- Both sides of a standard card are the values of their trees, and the card exists if the value
of the front differs from the front as it is written. Fields may come in any order. -/
theorem card_standard (settings : Settings) (ord : Ordinal) {given : FieldValues}
    (hfields : PlainFields stripper fields) (hperm : given.Perm fields)
    {front back : TemplateTree} (hfront : front.WellFormed PlainReference PlainName)
    (hback : back.WellFormed PlainBackReference PlainName) :
    (Renderer.withBuiltIns stripper settings).card .standard ord given front.written
        back.written =
      .ok (if front.eval (.ofNote stripper fields none) = front.written then none
        else some
          ⟨front.eval (.ofNote stripper fields none),
            back.eval (.ofNote stripper fields
              (some (front.eval (.ofNote stripper fields none))))⟩) ∧
      ∀ name value, (name, value) ∈ fields → ∀ body front,
        ((TemplateTree.conditional .present name body).eval (.ofNote stripper fields front),
          (TemplateTree.conditional .blank name body).eval (.ofNote stripper fields front)) =
          if isBlank value then ("", body.eval (.ofNote stripper fields front))
          else (body.eval (.ofNote stripper fields front), "") := by
  refine ⟨?_, fun name value hmem body front => eval_conditional_of_mem hfields hmem body front⟩
  have hgiven : PlainFields stripper given := by
    refine ⟨fun field hfield => hfields.plain field (hperm.mem_iff.1 hfield), ?_,
      fun field hfield => hfields.value_braceFree field (hperm.mem_iff.1 hfield),
      fun field hfield => hfields.stripped_braceFree field (hperm.mem_iff.1 hfield)⟩
    exact hperm.symm.pairwise hfields.distinct fun hne => hne.symm
  have hfront' : front.WellFormed PlainBackReference PlainName := hfront.mono fun r hr => .inl hr
  have hside (side : Side) : builtInText stripper settings side given front.written.toList =
      front.read (.ofNote stripper fields none) := by
    rw [written, String.toList_ofList, hgiven.builtInText_read settings side hfront',
      read_front_ofNote hfront settings side none, ofNote_eq_of_perm hperm hfields.distinct]
  have hnote : Renderer.narrow .standard ord given front.written back.written =
      ⟨given, front.written, back.written⟩ := rfl
  rw [card_withBuiltIns stripper settings hnote]
  simp only [hside]
  have hbackText := rewrite_frontSide_back hgiven settings
    (front.read (.ofNote stripper fields none)) hback
  rw [ofNote_eq_of_perm hperm hfields.distinct] at hbackText
  simp only [written, String.toList_ofList] at hbackText ⊢
  rw [hbackText]
  simp only [eval, String.ofList_inj]

end Fields

/-- A present field, a blank one, and the front on the back. -/
theorem card_standard_two_fields :
    (Renderer.withBuiltIns id {}).card .standard .first [("B", ""), ("A", "x")]
        "\x7b\x7b#A\x7d\x7d1\x7b\x7bA\x7d\x7d\x7b\x7b/A\x7d\x7d\x7b\x7b#B\x7d\x7d2\x7b\x7b/B\x7d\x7d"
        "\x7b\x7bFrontSide\x7d\x7d" = .ok (some ⟨"1x", "1x"⟩) := by
  have hA : PlainName "A" :=
    ⟨by decide, by simp [TemplateTree.sectionSigns], by decide, by decide, by decide⟩
  have hB : PlainName "B" :=
    ⟨by decide, by simp [TemplateTree.sectionSigns], by decide, by decide, by decide⟩
  have hfields : PlainFields id [("A", "x"), ("B", "")] :=
    ⟨by simp [hA, hB], by decide, by decide, by decide⟩
  have hone : BraceFree "1".toList := by decide
  have htwo : BraceFree "2".toList := by decide
  have hfront : WellFormed PlainReference PlainName (.append
      (.conditional .present "A" (.append (.literal "1") (.reference (.value "A"))))
      (.conditional .present "B" (.literal "2"))) :=
    ⟨⟨hA, ⟨hone, hA⟩, by decide⟩, hB, htwo, by decide⟩
  have hback : WellFormed PlainBackReference PlainName (.reference .frontSide) := .inr rfl
  have h := card_standard {} .first hfields (List.Perm.swap ("A", "x") ("B", "") [])
    hfront hback
  exact h.1.trans (by decide)

end Flashcard
