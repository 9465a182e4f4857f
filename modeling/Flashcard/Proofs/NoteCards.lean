import Flashcard.Proofs.StandardOrdinals
import Flashcard.Tool.Cards
import Mathlib.Data.List.Nodup

/-!
# The cards of a note

The cards of a standard note are those of the variants that the enumerator lists, one for each and
in their order. The enumerator hands over ids, and the variant of an id is the first that has it.
So where no two variants share an id, each card is made from the variant that was listed
(`renderNote_standard`), and else an earlier variant of the same id stands in for it
(`listed_variant_not_rendered`).
-/

namespace Flashcard

/-- A traversal that succeeds at each element succeeds, and each result goes with its element. -/
theorem exists_mapM_eq_ok {α β ε : Type} {f : α → Except ε β} {R : α → β → Prop} {l : List α}
    (h : ∀ a ∈ l, ∃ b, f a = .ok b ∧ R a b) : ∃ bs, l.mapM f = .ok bs ∧ List.Forall₂ R l bs := by
  induction l with
  | nil => exact ⟨[], rfl, .nil⟩
  | cons a l ih =>
    obtain ⟨⟨b, hb, hab⟩, hrest⟩ := List.forall_mem_cons.1 h
    obtain ⟨bs, hbs, hall⟩ := ih hrest
    refine ⟨b :: bs, ?_, .cons hab hall⟩
    rw [List.mapM_cons, hb, hbs]
    rfl

/-- Whether `v` is the first variant with the id `ord`. -/
def FirstWithId (variants : List Variant) (ord : Ordinal) (v : Variant) : Prop :=
  v.id = ord ∧ ∃ before behind, variants = before ++ v :: behind ∧ ∀ u ∈ before, u.id ≠ ord

theorem variant?_standard_eq_some_iff {variants : List Variant} {ord : Ordinal} {v : Variant} :
    (Layout.standard variants).variant? ord = some v ↔ FirstWithId variants ord v := by
  simp [Layout.variant?, FirstWithId, List.find?_eq_some_iff_append]

theorem exists_firstWithId {variants : List Variant} {v : Variant} (hv : v ∈ variants) :
    ∃ first, FirstWithId variants v.id first := by
  have hsome : ((Layout.standard variants).variant? v.id).isSome := by
    simpa [Layout.variant?] using ⟨v, hv, rfl⟩
  obtain ⟨first, hfirst⟩ := Option.isSome_iff_exists.1 hsome
  exact ⟨first, variant?_standard_eq_some_iff.1 hfirst⟩

/-- Where no two variants share an id, each variant is the first with its id. -/
theorem FirstWithId.eq_of_nodup {variants : List Variant} {v first : Variant}
    (hids : (variants.map Variant.id).Nodup) (hv : v ∈ variants)
    (h : FirstWithId variants v.id first) : first = v := by
  obtain ⟨hid, before, behind, rfl, -⟩ := h
  exact List.inj_on_of_nodup_map hids (by simp) hv hid

namespace Tool

/-- The card of one ordinal. -/
def renderCard (r : Renderer) (design : Design) (fields : FieldValues) (ord : Ordinal) :
    Except RunError RenderedCard :=
  match design.layout.variant? ord with
  | none => throw (.noVariant ord)
  | some v => do
    let sides := r.pages design.layout.kind ord fields v.front v.back design.css
    return ⟨ord, ← sides.mapError .unrendered⟩

theorem renderNote_eq (r : Renderer) (design : Design) (fields : FieldValues) :
    renderNote r design fields =
      (r.ordinals fields design).mapError .unrendered >>=
        List.mapM (renderCard r design fields) := rfl

/-- Whether a card has the ordinal of the variant `listed` and the pages of the variant `source`. -/
structure IsCardOf (r : Renderer) (fields : FieldValues) (css : String) (listed source : Variant)
    (card : RenderedCard) : Prop where
  ordinal : card.ordinal = listed.id
  sides : r.pages .standard listed.id fields source.front source.back css = .ok card.sides

section Standard

variable {r : Renderer} (hr : r.standard = .builtIn) {design : Design} {variants : List Variant}
  (hlayout : design.layout = .standard variants) (fields : FieldValues)
include hr

theorem exists_pages_eq_ok (ord : Ordinal) (front back css : String) :
    ∃ sides, r.pages .standard ord fields front back css = .ok sides := by
  obtain ⟨card, hcard, -⟩ := exists_card_of_standard_builtIn hr ord fields front back
  rw [Renderer.pages, hcard]
  exact ⟨_, rfl⟩

include hlayout

/-- The card of a variant's id is made from the first variant with that id. -/
theorem exists_renderCard_eq_ok {v : Variant} (hv : v ∈ variants) :
    ∃ card, renderCard r design fields v.id = .ok card ∧
      ∃ first, FirstWithId variants v.id first ∧ IsCardOf r fields design.css v first card := by
  obtain ⟨first, hfirst⟩ := exists_firstWithId hv
  obtain ⟨sides, hsides⟩ := exists_pages_eq_ok hr fields v.id first.front first.back design.css
  refine ⟨⟨v.id, sides⟩, ?_, first, hfirst, rfl, hsides⟩
  rw [renderCard, hlayout, variant?_standard_eq_some_iff.2 hfirst, Layout.kind]
  simp only [hsides]
  rfl

/-- The cards of a note go with the listed variants. -/
theorem exists_renderNote_eq_ok :
    ∃ cards, renderNote r design fields = .ok cards ∧
      List.Forall₂
        (fun v card => v ∈ variants ∧ ∃ first, FirstWithId variants v.id first ∧
          IsCardOf r fields design.css v first card)
        (variants.filter ((r.setStripper id).renders fields)) cards := by
  have hcard : ∀ v ∈ variants.filter ((r.setStripper id).renders fields),
      ∃ card, (renderCard r design fields ∘ Variant.id) v = .ok card ∧ v ∈ variants ∧
        ∃ first, FirstWithId variants v.id first ∧
          IsCardOf r fields design.css v first card := by
    intro v hlisted
    have hv := List.mem_of_mem_filter hlisted
    obtain ⟨card, hcard, hfirst⟩ := exists_renderCard_eq_ok hr hlayout fields hv
    exact ⟨card, hcard, hv, hfirst⟩
  obtain ⟨cards, hcards, hall⟩ := exists_mapM_eq_ok hcard
  refine ⟨cards, ?_, hall⟩
  rw [renderNote_eq, ordinals_eq_renders hr hlayout]
  exact List.mapM_map.trans hcards

end Standard

/-- A standard note has one card for each variant that the enumerator lists, in their order. It is
made from the first variant with the id that was listed, and so from the listed variant itself
where no two variants share an id. -/
theorem renderNote_standard {r : Renderer} (hr : r.standard = .builtIn) {design : Design}
    {variants : List Variant} (hlayout : design.layout = .standard variants)
    (fields : FieldValues) :
    let listed := variants.filter ((r.setStripper id).renders fields)
    r.ordinals fields design = .ok (listed.map Variant.id) ∧
      ∃ cards, renderNote r design fields = .ok cards ∧
        List.Forall₂
          (fun v card => ∃ first, FirstWithId variants v.id first ∧
            IsCardOf r fields design.css v first card) listed cards ∧
        ((variants.map Variant.id).Nodup →
          List.Forall₂ (fun v card => IsCardOf r fields design.css v v card) listed cards) := by
  obtain ⟨cards, hcards, hall⟩ := exists_renderNote_eq_ok hr hlayout fields
  refine ⟨ordinals_eq_renders hr hlayout, cards, hcards, hall.imp fun v card h => h.2, ?_⟩
  intro hids
  refine hall.imp ?_
  rintro v card ⟨hv, first, hfirst, hcard⟩
  rwa [hfirst.eq_of_nodup hids hv] at hcard

/-- Of two variants with different ids the one that renders makes the card. -/
theorem renderNote_standard_two_variants :
    let r := Renderer.withBuiltIns visibleText {}
    let plain : Variant := ⟨.first, "", "plain", "", none, none⟩
    let shown : Variant := ⟨⟨1, by decide⟩, "", "\x7b\x7bN\x7d\x7d", "", none, none⟩
    ∃ card, renderNote r ⟨["N"], .standard [plain, shown], ""⟩ [("N", "x")] = .ok [card] ∧
      IsCardOf r [("N", "x")] "" shown shown card := by
  intro r plain shown
  have hlisted : [plain, shown].filter ((r.setStripper id).renders [("N", "x")]) = [shown] := by
    decide +kernel
  obtain ⟨-, cards, hcards, -, hown⟩ := renderNote_standard (r := r) rfl
    (rfl : Design.layout ⟨["N"], .standard [plain, shown], ""⟩ = _) [("N", "x")]
  have hall := hown (by decide)
  rw [hlisted] at hall
  obtain ⟨card, rest, hcard, hrest, rfl⟩ := List.forall₂_cons_left_iff.1 hall
  cases hrest
  exact ⟨card, hcards, hcard⟩

/-- A variant that renders is listed, and an earlier variant of its id is rendered in its place. -/
theorem listed_variant_not_rendered :
    let r := Renderer.withBuiltIns visibleText {}
    let plain : Variant := ⟨.first, "", "plain", "", none, none⟩
    let shown : Variant := ⟨.first, "", "\x7b\x7bN\x7d\x7d", "", none, none⟩
    let design : Design := ⟨["N"], .standard [plain, shown], ""⟩
    r.ordinals [("N", "x")] design = .ok [.first] ∧
      [plain, shown].filter ((r.setStripper id).renders [("N", "x")]) = [shown] ∧
      renderNote r design [("N", "x")] = .ok [⟨.first, none⟩] ∧
      ¬ IsCardOf r [("N", "x")] "" shown shown ⟨.first, none⟩ := by
  intro r plain shown design
  have hords : r.ordinals [("N", "x")] design = .ok [.first] := by decide +kernel
  have hplain : r.pages .standard .first [("N", "x")] "plain" "" "" = .ok none := by decide +kernel
  have hfirst : design.layout.variant? .first = some plain := rfl
  have hcard : renderCard r design [("N", "x")] .first = .ok ⟨.first, none⟩ := by
    simp only [renderCard, hfirst]
    change (r.pages .standard .first [("N", "x")] "plain" "" "").mapError _ >>= _ = _
    rw [hplain]
    rfl
  have hshown : r.pages .standard .first [("N", "x")] "\x7b\x7bN\x7d\x7d" "" "" ≠ .ok none := by
    decide +kernel
  refine ⟨hords, by decide +kernel, ?_, fun h => hshown h.sides⟩
  rw [renderNote_eq, hords]
  change [Ordinal.first].mapM (renderCard r design [("N", "x")]) = _
  rw [List.mapM_cons, hcard]
  rfl

end Tool

end Flashcard
