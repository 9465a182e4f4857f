import Flashcard.Proofs.GroupReading
import Flashcard.Proofs.PreviewCards

/-!
# What can fail

A rendering fails only through a step that fails. The built-in steps do not, for they read of a
directive only what every match of it has, so a renderer whose steps are built in or never fail
renders every card, page and note, and previews every design whose cards the ordinals suffice for
(`Renderer.Reliable.never_fails`).
-/

namespace Flashcard

theorem exists_foldlM_eq_ok {α β ε : Type} {f : β → α → Except ε β} {l : List α}
    (h : ∀ a ∈ l, ∀ b, ∃ b', f b a = .ok b') (b : β) : ∃ b', l.foldlM f b = .ok b' := by
  induction l generalizing b with
  | nil => exact ⟨b, rfl⟩
  | cons a l ih =>
    obtain ⟨ha, hl⟩ := List.forall_mem_cons.1 h
    obtain ⟨b', hb⟩ := ha b
    rw [List.foldlM_cons, hb]
    exact ih hl b'

theorem exists_mapM_eq_ok_of_forall {α β ε : Type} {f : α → Except ε β} {l : List α}
    (h : ∀ a ∈ l, ∃ b, f a = .ok b) : ∃ bs, l.mapM f = .ok bs := by
  obtain ⟨bs, hbs, -⟩ := exists_mapM_eq_ok (R := fun _ _ => True) fun a ha =>
    (h a ha).imp fun _ hb => ⟨hb, trivial⟩
  exact ⟨bs, hbs⟩

/-- Whether a step succeeds for every field and on every template. -/
def Step.NeverFails (step : Step) : Prop := ∀ field template, ∃ text, step field template = .ok text

/-- Whether every step is built in or never fails. -/
def Pipeline.Reliable (p : Pipeline) : Prop :=
  ∀ entry ∈ p.steps, entry.2 ∈ Pipeline.builtIn.steps.map Prod.snd ∨ entry.2.NeverFails

structure Renderer.Reliable (r : Renderer) : Prop where
  standard : r.standard.Reliable
  cloze : r.cloze.Reliable

theorem Step.neverFails_of_mem_builtIn {step : Step}
    (h : step ∈ Pipeline.builtIn.steps.map Prod.snd) : step.NeverFails := by
  simp only [Pipeline.builtIn, List.map_cons, List.map_nil, List.mem_cons, List.not_mem_nil,
    or_false] at h
  obtain rfl | rfl | rfl | rfl | rfl := h <;> exact fun _ _ => ⟨_, rfl⟩

namespace Pipeline.Reliable

variable {p : Pipeline} (hp : p.Reliable)
include hp

theorem exists_run_eq_ok (field : FieldView) (template : String) :
    ∃ text, p.run field template = .ok text :=
  exists_foldlM_eq_ok (fun entry hentry template =>
    (hp entry hentry).elim Step.neverFails_of_mem_builtIn id field template) template

theorem exists_substitute_eq_ok (stripper : Stripper) (settings : Settings) (side : Side)
    (fields : FieldValues) (template : String) :
    ∃ text, p.substitute stripper settings side fields template = .ok text :=
  exists_foldlM_eq_ok (fun field _ =>
    hp.exists_run_eq_ok ⟨field.1, field.2, side, stripper, settings⟩) template

end Pipeline.Reliable

namespace Renderer.Reliable

variable {r : Renderer} (hr : r.Reliable)
include hr

theorem exists_substitute_eq_ok (kind : Kind) (side : Side) (fields : FieldValues)
    (template : String) : ∃ text, r.substitute kind side fields template = .ok text := by
  cases kind with
  | standard => exact hr.standard.exists_substitute_eq_ok _ _ _ _ _
  | cloze => exact hr.cloze.exists_substitute_eq_ok _ _ _ _ _

theorem exists_card_eq_ok (kind : Kind) (ord : Ordinal) (fields : FieldValues)
    (front back : String) : ∃ card, r.card kind ord fields front back = .ok card := by
  have hsubstitute := hr.exists_substitute_eq_ok kind
  obtain ⟨frontText, hfront⟩ := hsubstitute .front (narrow kind ord fields front back).fields
    (narrow kind ord fields front back).front
  obtain ⟨backText, hback⟩ := hsubstitute .back (narrow kind ord fields front back).fields
    (narrow kind ord fields front back).back
  obtain ⟨frontOnBack, hfrontOnBack⟩ := hsubstitute .back
    (narrow kind ord fields front back).fields (narrow kind ord fields front back).front
  simp only [card, hfront, hback, hfrontOnBack, bind, Except.bind]
  split
  · exact ⟨none, rfl⟩
  · split <;> exact ⟨_, rfl⟩

theorem exists_pages_eq_ok (kind : Kind) (ord : Ordinal) (fields : FieldValues)
    (front back css : String) : ∃ card, r.pages kind ord fields front back css = .ok card := by
  obtain ⟨card, hcard⟩ := hr.exists_card_eq_ok kind ord fields front back
  rw [pages, hcard]
  exact ⟨_, rfl⟩

/-- The enumerator lists only ordinals that have a variant. -/
theorem exists_ordinals_eq_ok (fields : FieldValues) (design : Design) :
    ∃ ords, r.ordinals fields design = .ok ords ∧
      ∀ ord ∈ ords, ∃ v, design.layout.variant? ord = some v := by
  rw [ordinals]
  cases design.layout with
  | cloze shared => exact ⟨_, rfl, fun ord _ => ⟨shared, rfl⟩⟩
  | standard variants =>
    have hr' : (r.setStripper id).Reliable := ⟨hr.standard, hr.cloze⟩
    obtain ⟨found, hfound, hall⟩ := exists_mapM_eq_ok (l := variants)
      (R := fun v entry => entry.1 = v.id) (f := fun v => do
        return (v.id, (← (r.setStripper id).card .standard v.id fields v.front v.back).isSome))
      fun v _ => by
        obtain ⟨card, hcard⟩ := hr'.exists_card_eq_ok .standard v.id fields v.front v.back
        exact ⟨(v.id, card.isSome), by rw [hcard]; rfl, rfl⟩
    have hids : variants.map Variant.id = found.map Prod.fst := by
      rw [← List.forall₂_eq_eq_eq, List.forall₂_map_left_iff, List.forall₂_map_right_iff]
      exact hall.imp fun _ _ h => h.symm
    refine ⟨(found.filter Prod.snd).map Prod.fst, ?_, fun ord hord => ?_⟩
    · dsimp only
      rw [hfound]
      rfl
    · have hmem : ord ∈ variants.map Variant.id := by
        rw [hids]
        exact List.map_subset _ (List.filter_subset_self _) hord
      obtain ⟨v, hv, rfl⟩ := List.mem_map.1 hmem
      obtain ⟨first, hfirst⟩ := exists_firstWithId hv
      exact ⟨first, variant?_standard_eq_some_iff.2 hfirst⟩

theorem exists_renderNote_eq_ok (design : Design) (fields : FieldValues) :
    ∃ cards, Tool.renderNote r design fields = .ok cards := by
  obtain ⟨ords, hords, hvariants⟩ := hr.exists_ordinals_eq_ok fields design
  have hcard : ∀ ord ∈ ords, ∃ card, Tool.renderCard r design fields ord = .ok card := by
    intro ord hord
    obtain ⟨v, hv⟩ := hvariants ord hord
    obtain ⟨sides, hsides⟩ :=
      hr.exists_pages_eq_ok design.layout.kind ord fields v.front v.back design.css
    refine ⟨⟨ord, sides⟩, ?_⟩
    rw [Tool.renderCard, hv]
    simp only [hsides]
    rfl
  obtain ⟨cards, hcards⟩ := exists_mapM_eq_ok_of_forall hcard
  refine ⟨cards, ?_⟩
  rw [Tool.renderNote_eq, hords]
  exact hcards

/-- A preview fails only for want of ordinals. -/
theorem preview_eq_ok_or_error (design : Design) :
    (∃ cards, r.preview design = .ok cards) ∨
      ∃ shared, design.layout = .cloze shared ∧
        Ordinal.bound < (Slot.fields shared.front).length ∧
        r.preview design = .error (.ordinalOutOfRange Ordinal.bound) := by
  cases hlayout : design.layout with
  | standard variants =>
    obtain ⟨cards, hcards⟩ := exists_mapM_eq_ok_of_forall (l := variants) fun v _ =>
      hr.exists_pages_eq_ok .standard v.id (sampleValues design.fields) v.front v.back design.css
    refine Or.inl ⟨cards, ?_⟩
    rw [preview, hlayout]
    exact hcards
  | cloze shared =>
    have hpages : ∀ slot ∈ Slot.fields shared.front, ∀ ord,
        ∃ card, r.previewPages design shared slot ord = .ok card :=
      fun slot _ ord => hr.exists_pages_eq_ok _ _ _ _ _ _
    rw [r.preview_cloze_eq hlayout]
    by_cases hle : (Slot.fields shared.front).length ≤ Ordinal.bound
    · obtain ⟨cards, hcards, -⟩ := exists_mapM_positions_eq_ok (R := fun _ _ => True)
        (fun slot hslot ord => (hpages slot hslot ord).imp fun _ hcard => ⟨hcard, trivial⟩) hle
      exact Or.inl ⟨cards, hcards⟩
    · have hlt := Nat.lt_of_not_le hle
      exact Or.inr ⟨shared, rfl, hlt, mapM_positions_eq_error hpages hlt⟩

/-- A renderer whose steps are built in or never fail renders every card, its pages and the cards
of every note, and finds the ordinals of every note. It previews every design whose cards the
ordinals suffice for. No match of a directive lacks a group that is read, and what is read by groups
is what the readers of the directives give. -/
theorem rendering_never_fails :
    (∀ kind ord fields front back, ∃ card, r.card kind ord fields front back = .ok card) ∧
      (∀ kind ord fields front back css,
        ∃ card, r.pages kind ord fields front back css = .ok card) ∧
      (∀ fields design, ∃ ords, r.ordinals fields design = .ok ords) ∧
      (∀ design, (∃ cards, r.preview design = .ok cards) ∨
        ∃ shared, design.layout = .cloze shared ∧
          Ordinal.bound < (Slot.fields shared.front).length ∧
          r.preview design = .error (.ordinalOutOfRange Ordinal.bound)) ∧
      (∀ design fields, ∃ cards, Tool.renderNote r design fields = .ok cards) ∧
      Deletion.expression.Offers "cloze marker" ["0", "index", "answer"] ∧
      Slot.expression.Offers "cloze slot" ["field"] ∧
      (∀ kind name, (Section.expressionFor kind name).Offers "section" ["body"]) ∧
      (∀ e : Expression, e.Offers "replacement" ["0"]) ∧
      Pipeline.tryBuiltIn = Pipeline.builtIn ∧
      (∀ fields front back ord, Narrowed.tryOfCloze fields front back ord =
        .ok (Narrowed.ofCloze fields front back ord)) ∧
      (∀ fields front, tryClozeOrdinals fields front = .ok (clozeOrdinals fields front)) ∧
      ∀ template, Slot.tryFields template = .ok (Slot.fields template) :=
  ⟨hr.exists_card_eq_ok, hr.exists_pages_eq_ok,
    fun fields design => (hr.exists_ordinals_eq_ok fields design).imp fun _ h => h.1,
    hr.preview_eq_ok_or_error, hr.exists_renderNote_eq_ok,
    Expression.offers_of_subset_required (by decide) _,
    Expression.offers_of_subset_required (by decide) _,
    fun kind name => Expression.offers_of_subset_required (by simp [Section.expressionFor,
      Expression.required]) _,
    fun e => Expression.offers_of_subset_required (by simp) _,
    Pipeline.tryBuiltIn_eq, Narrowed.tryOfCloze_eq, tryClozeOrdinals_eq, Slot.tryFields_eq⟩

omit hr in
/-- A step of a caller's own that puts line breaks in. -/
theorem rendering_never_fails_line_breaks :
    let breaks : Step := .total fun _ =>
      (Pattern.literal ['\n'] (List.cons_ne_nil _ _)).replace fun _ => "<br>"
    let r := (Renderer.withBuiltIns id {}).setStep .cloze "breaks" breaks
    let shared : Variant := ⟨.first, "", "\x7b\x7bcloze:A\x7d\x7d", "", none, none⟩
    r.cloze.names = ["field", "show_if_present", "show_if_blank", "text", "cloze", "breaks"] ∧
      r.Reliable ∧
      ∃ cards, Tool.renderNote r ⟨["A"], .cloze shared, ""⟩ [("A", "\x7b\x7bc1::a\x7d\x7d")] =
        .ok cards := by
  intro breaks r shared
  have hstandard : r.standard.Reliable := fun entry hentry =>
    Or.inl (List.mem_map_of_mem hentry)
  have hcloze : r.cloze.Reliable := by
    intro entry hentry
    have hsteps : r.cloze.steps = Pipeline.builtIn.steps ++ [("breaks", breaks)] := rfl
    rw [hsteps, List.mem_append, List.mem_singleton] at hentry
    obtain hentry | rfl := hentry
    · exact Or.inl (List.mem_map_of_mem hentry)
    · exact Or.inr fun _ _ => ⟨_, rfl⟩
  have hr : r.Reliable := ⟨hstandard, hcloze⟩
  obtain ⟨-, -, -, -, hnote, -⟩ := hr.rendering_never_fails
  exact ⟨rfl, hr, hnote _ _⟩

end Renderer.Reliable

end Flashcard
