import Flashcard.Renderer
import Flashcard.Stripper
import Mathlib.Data.List.Induction

/-!
# Changes to a renderer

A renderer starts with the built-in steps, and calls then set its settings, its stripper, or a step
of one kind of design. What is left of a run of such calls: the names that are not built in stand
behind the built-in ones, in the order they came up; each name holds the last step that was set
under it; and the settings and the stripper are those set last (`changed_withBuiltIns`).
-/

namespace Flashcard

theorem lookup_cons_eq_ite {α : Type} (name n : String) (a : α) (l : List (String × α)) :
    ((n, a) :: l).lookup name = if name = n then some a else l.lookup name := by
  by_cases h : name = n
  · simp [h]
  · rw [List.lookup_cons, beq_eq_false_iff_ne.2 h, if_neg h]

namespace Pipeline

variable {p q : Pipeline}

/-- The step under a name. -/
def step? (p : Pipeline) (name : String) : Option Step := p.steps.lookup name

theorem names_set (p : Pipeline) (name : String) (step : Step) :
    (p.set name step).names = if name ∈ p.names then p.names else p.names ++ [name] := by
  obtain ⟨steps⟩ := p
  simp only [set, names]
  induction steps with
  | nil => rfl
  | cons first steps ih =>
    by_cases h : first.1 = name
    · simp [setStep, h]
    · rw [setStep, if_neg h, List.map_cons, ih]
      by_cases hmem : name ∈ steps.map Prod.fst <;> simp [hmem, Ne.symm h]

theorem step?_set (p : Pipeline) (name : String) (step : Step) (n : String) :
    (p.set name step).step? n = if n = name then some step else p.step? n := by
  obtain ⟨steps⟩ := p
  simp only [set, step?]
  induction steps with
  | nil => exact lookup_cons_eq_ite n name step []
  | cons first steps ih =>
    obtain ⟨m, s⟩ := first
    by_cases h : m = name
    · rw [setStep, if_pos h, h, lookup_cons_eq_ite, lookup_cons_eq_ite]
      split <;> rfl
    · simp only [setStep, if_neg h, lookup_cons_eq_ite, ih]
      by_cases hn : n = m
      · rw [if_pos hn, if_neg (hn ▸ h), if_pos hn]
      · rw [if_neg hn, if_neg hn]

theorem nodup_names_set (h : p.names.Nodup) (name : String) (step : Step) :
    (p.set name step).names.Nodup := by
  rw [names_set]
  split
  · exact h
  · grind [List.nodup_append]

/-- A pipeline is made of its names and of the step under each. -/
theorem ext_of_names (hp : p.names.Nodup) (hnames : p.names = q.names)
    (hsteps : ∀ name, p.step? name = q.step? name) : p = q := by
  obtain ⟨steps⟩ := p
  obtain ⟨others⟩ := q
  simp only [names, step?] at hp hnames hsteps
  rw [mk.injEq]
  induction steps generalizing others with
  | nil => exact (List.map_eq_nil_iff.1 hnames.symm).symm
  | cons first steps ih =>
    obtain ⟨name, step⟩ := first
    obtain _ | ⟨⟨other, step'⟩, others⟩ := others
    · cases hnames
    obtain ⟨rfl, hrest⟩ : name = other ∧ _ := List.cons.inj hnames
    obtain ⟨hnew, hp⟩ := List.nodup_cons.1 hp
    obtain rfl : step = step' := by simpa [lookup_cons_eq_ite] using hsteps name
    refine List.cons_eq_cons.2 ⟨rfl, ih hp others hrest fun n => ?_⟩
    by_cases hn : n = name
    · -- The name of the first step is in neither rest.
      rw [List.lookup_eq_none_iff.2 (by grind), List.lookup_eq_none_iff.2 (by grind)]
    · simpa [lookup_cons_eq_ite, hn] using hsteps n

/-- The pipeline with all of `entries` set, one after another. -/
def setAll (p : Pipeline) (entries : List (String × Step)) : Pipeline :=
  entries.foldl (fun p entry => p.set entry.1 entry.2) p

theorem setAll_cons (p : Pipeline) (entry : String × Step) (entries : List (String × Step)) :
    p.setAll (entry :: entries) = (p.set entry.1 entry.2).setAll entries :=
  rfl

theorem nodup_names_setAll (entries : List (String × Step)) (h : p.names.Nodup) :
    (p.setAll entries).names.Nodup :=
  List.foldlRecOn (motive := fun q : Pipeline => q.names.Nodup) entries _ h fun _ hq entry _ =>
    nodup_names_set hq entry.1 entry.2

theorem names_setAll (p : Pipeline) (entries : List (String × Step)) :
    (p.setAll entries).names =
      p.names ++ ((entries.map Prod.fst).filter (· ∉ p.names)).eraseDups := by
  induction entries generalizing p with
  | nil => simp [setAll]
  | cons entry entries ih =>
    rw [setAll_cons, ih, names_set, List.map_cons]
    split
    · rw [List.filter_cons_of_neg (by simpa)]
    · rw [List.filter_cons_of_pos (by simpa), List.eraseDups_cons, List.filter_filter,
        List.append_assoc, List.singleton_append]
      congr 3
      refine List.filter_congr fun n _ => ?_
      simp [Bool.and_comm, Bool.beq_eq_decide_eq]

theorem step?_setAll (p : Pipeline) (entries : List (String × Step)) (name : String) :
    (p.setAll entries).step? name = (entries.reverse.lookup name).or (p.step? name) := by
  induction entries generalizing p with
  | nil => simp [setAll]
  | cons entry entries ih =>
    obtain ⟨n, step⟩ := entry
    rw [setAll_cons, ih, step?_set, List.reverse_cons, List.lookup_append, Option.or_assoc]
    by_cases h : name = n <;> simp [lookup_cons_eq_ite, h]

end Pipeline

namespace Renderer

/-- A call that changes a renderer. -/
inductive Change where
  | settings (value : Settings)
  | stripper (value : Stripper)
  | step (kind : Kind) (name : String) (value : Step)

namespace Change

def apply (r : Renderer) : Change → Renderer
  | .settings s => r.setSettings s
  | .stripper f => r.setStripper f
  | .step kind name s => r.setStep kind name s

def settings? : Change → Option Settings
  | .settings s => some s
  | _ => none

def stripper? : Change → Option Stripper
  | .stripper f => some f
  | _ => none

/-- The name and the step that a call sets for `kind`. -/
def entry? (kind : Kind) : Change → Option (String × Step)
  | .step k name s => if k = kind then some (name, s) else none
  | _ => none

end Change

variable {changes others : List Change}

/-- The renderer after the changes, one after another. -/
def changed (r : Renderer) (changes : List Change) : Renderer := changes.foldl Change.apply r

theorem changed_cons (r : Renderer) (change : Change) (changes : List Change) :
    r.changed (change :: changes) = (change.apply r).changed changes :=
  rfl

theorem changed_concat (r : Renderer) (changes : List Change) (change : Change) :
    r.changed (changes ++ [change]) = change.apply (r.changed changes) :=
  List.foldl_append

/-- The settings set last. -/
def lastSettings? (changes : List Change) : Option Settings :=
  (changes.filterMap Change.settings?).getLast?

/-- The stripper set last. -/
def lastStripper? (changes : List Change) : Option Stripper :=
  (changes.filterMap Change.stripper?).getLast?

/-- The names and steps set for `kind`, in order. -/
def entries (kind : Kind) (changes : List Change) : List (String × Step) :=
  changes.filterMap (Change.entry? kind)

/-- The step set last for `kind` under a name. -/
def lastStep? (kind : Kind) (changes : List Change) (name : String) : Option Step :=
  (entries kind changes).reverse.lookup name

/-- The names set for `kind` that are not built in, each where it came up first. -/
def addedNames (kind : Kind) (changes : List Change) : List String :=
  (((entries kind changes).map Prod.fst).filter (· ∉ Pipeline.builtIn.names)).eraseDups

theorem pipeline_apply (r : Renderer) (kind : Kind) (change : Change) :
    (change.apply r).pipeline kind = (r.pipeline kind).setAll (change.entry? kind).toList := by
  cases change with
  | settings | stripper => cases kind <;> rfl
  | step k => cases k <;> cases kind <;> rfl

theorem pipeline_changed (r : Renderer) (kind : Kind) (changes : List Change) :
    (r.changed changes).pipeline kind = (r.pipeline kind).setAll (entries kind changes) := by
  induction changes generalizing r with
  | nil => rfl
  | cons change changes ih =>
    rw [changed_cons, ih, pipeline_apply, entries, entries, List.filterMap_cons]
    cases change.entry? kind <;> rfl

/-- A part of the renderer that each change sets or leaves alone is what was set last. -/
theorem get_changed {α : Type} {get : Renderer → α} {set? : Change → Option α}
    (h : ∀ change r, get (change.apply r) = (set? change).getD (get r)) (r : Renderer)
    (changes : List Change) :
    get (r.changed changes) = (changes.filterMap set?).getLast?.getD (get r) := by
  induction changes using List.reverseRecOn with
  | nil => rfl
  | append_singleton changes change ih =>
    rw [changed_concat, h, ih, List.filterMap_append, List.getLast?_append]
    cases hset : set? change <;> simp [hset]

theorem settings_changed (r : Renderer) (changes : List Change) :
    (r.changed changes).settings = (lastSettings? changes).getD r.settings := by
  refine get_changed (fun change r => ?_) r changes
  cases change with
  | settings | stripper => rfl
  | step kind => cases kind <;> rfl

theorem stripper_changed (r : Renderer) (changes : List Change) :
    (r.changed changes).stripper = (lastStripper? changes).getD r.stripper := by
  refine get_changed (fun change r => ?_) r changes
  cases change with
  | settings | stripper => rfl
  | step kind => cases kind <;> rfl

theorem nodup_names_builtIn : Pipeline.builtIn.names.Nodup := by decide

/-- What the renderer with the built-in steps becomes by `changes`. -/
structure ChangedBy (stripper : Stripper) (settings : Settings) (changes : List Change)
    (r : Renderer) : Prop where
  names (kind : Kind) :
    (r.pipeline kind).names =
      ["field", "show_if_present", "show_if_blank", "text", "cloze"] ++ addedNames kind changes
  nodup_names (kind : Kind) : (r.pipeline kind).names.Nodup
  step? (kind : Kind) (name : String) :
    (r.pipeline kind).step? name =
      (lastStep? kind changes name).or (Pipeline.builtIn.step? name)
  settings : r.settings = (lastSettings? changes).getD settings
  stripper : r.stripper = (lastStripper? changes).getD stripper

theorem changedBy_changed (stripper : Stripper) (settings : Settings) (changes : List Change) :
    ChangedBy stripper settings changes ((withBuiltIns stripper settings).changed changes) := by
  have hpipeline (kind : Kind) :
      ((withBuiltIns stripper settings).changed changes).pipeline kind =
        Pipeline.builtIn.setAll (entries kind changes) := by
    rw [pipeline_changed]
    cases kind <;> rfl
  refine ⟨fun kind => ?_, fun kind => ?_, fun kind name => ?_, settings_changed _ _,
    stripper_changed _ _⟩
  · rw [hpipeline, Pipeline.names_setAll]
    rfl
  · rw [hpipeline]
    exact Pipeline.nodup_names_setAll _ nodup_names_builtIn
  · rw [hpipeline, Pipeline.step?_setAll, lastStep?]

/-- Whether two runs of changes set the same things last, and new names in the same order. -/
structure SameOutcome (changes others : List Change) : Prop where
  addedNames (kind : Kind) : addedNames kind changes = addedNames kind others
  lastStep? (kind : Kind) (name : String) : lastStep? kind changes name = lastStep? kind others name
  lastSettings? : lastSettings? changes = lastSettings? others
  lastStripper? : lastStripper? changes = lastStripper? others

theorem ChangedBy.eq_of_sameOutcome {stripper : Stripper} {settings : Settings} {q r : Renderer}
    (hq : ChangedBy stripper settings changes q) (hr : ChangedBy stripper settings others r)
    (h : SameOutcome changes others) : q = r := by
  have hpipeline (kind : Kind) : q.pipeline kind = r.pipeline kind := by
    refine Pipeline.ext_of_names (hq.nodup_names kind) ?_ fun name => ?_
    · rw [hq.names, hr.names, h.addedNames]
    · rw [hq.step?, hr.step?, h.lastStep?]
  have hsettings : q.settings = r.settings := by rw [hq.settings, hr.settings, h.lastSettings?]
  have hstripper : q.stripper = r.stripper := by rw [hq.stripper, hr.stripper, h.lastStripper?]
  cases q
  cases r
  exact mk.injEq .. ▸ ⟨hsettings, hstripper, hpipeline .standard, hpipeline .cloze⟩

/-- A run of changes leaves what each of them sets last. It does not touch the pipeline of a kind
that it sets no step for, and another run of the same outcome makes the same cards. -/
theorem changed_withBuiltIns (stripper : Stripper) (settings : Settings) (changes : List Change) :
    ChangedBy stripper settings changes ((withBuiltIns stripper settings).changed changes) ∧
      (∀ later kind, (∀ change ∈ later, change.entry? kind = none) →
        ((withBuiltIns stripper settings).changed (changes ++ later)).pipeline kind =
          ((withBuiltIns stripper settings).changed changes).pipeline kind) ∧
      ∀ others, SameOutcome changes others → ∀ kind ord fields front back,
        ((withBuiltIns stripper settings).changed changes).card kind ord fields front back =
          ((withBuiltIns stripper settings).changed others).card kind ord fields front back := by
  refine ⟨changedBy_changed stripper settings changes, fun later kind hlater => ?_,
    fun others h kind ord fields front back => ?_⟩
  · have hnone : entries kind later = [] := List.filterMap_eq_nil_iff.2 hlater
    rw [changed, List.foldl_append, ← changed, ← changed, pipeline_changed _ _ later, hnone]
    rfl
  · rw [(changedBy_changed stripper settings changes).eq_of_sameOutcome
      (changedBy_changed stripper settings others) h]

/-- A new step that is set twice, with a step of the other kind between. -/
def setTwice : List Change :=
  [.step .standard "note" Step.slots, .step .cloze "text" Step.value,
    .step .standard "note" Step.value]

def setOnce : List Change :=
  [.step .standard "note" Step.value, .step .cloze "text" Step.value]

theorem changed_withBuiltIns_set_twice :
    ChangedBy visibleText {} setTwice ((withBuiltIns visibleText {}).changed setTwice) ∧
      addedNames .standard setTwice = ["note"] ∧
      ((withBuiltIns visibleText {}).changed (setTwice ++ [.step .cloze "x" Step.value])).pipeline
          .standard =
        ((withBuiltIns visibleText {}).changed setTwice).pipeline .standard ∧
      ∀ ord fields front back,
        ((withBuiltIns visibleText {}).changed setTwice).card .standard ord fields front back =
          ((withBuiltIns visibleText {}).changed setOnce).card .standard ord fields front back := by
  obtain ⟨hchanged, hlater, hcards⟩ := changed_withBuiltIns visibleText {} setTwice
  refine ⟨hchanged, rfl, hlater _ .standard (by simp [Change.entry?]), hcards setOnce ?_ .standard⟩
  refine ⟨fun kind => by cases kind <;> rfl, fun kind name => ?_, rfl, rfl⟩
  cases kind with
  | standard =>
    change [("note", Step.value), ("note", Step.slots)].lookup name =
      [("note", Step.value)].lookup name
    by_cases h : name = "note" <;> simp [lookup_cons_eq_ite, h]
  | cloze => rfl

end Renderer

end Flashcard
