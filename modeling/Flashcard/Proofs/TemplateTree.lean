import Flashcard.Proofs.Directive.Slot
import Flashcard.Proofs.BuiltIn

/-!
# Templates as trees

A well-written template is a tree of literals, references and conditional sections.
`TemplateTree.read` is the text that a tree stands for when a part of its references and sections is
known: what is known is written out, and the rest stays as directives. With nothing known this is
the template as its writer wrote it, and with all fields known it is the value of the tree.

A substitution step makes one more directive known. `rewrite_read` says so for every pattern of
references, and `rewrite_conditional_read` for the sections of one field, whose closing tag must be
found in a text where other directives may be known already.
-/

namespace Flashcard

/-- A directive that stands for a text. -/
inductive Reference where
  /-- The value of a field. -/
  | value (name : String)
  /-- The value of a field without markup. -/
  | text (name : String)
  /-- The value of a field with its deletions. -/
  | slot (name : String)
  /-- The front of the card. -/
  | frontSide
deriving DecidableEq

/-- The keyword of a reference to a value without markup, with its colon. -/
def textKeyword : List Char := ['t', 'e', 'x', 't', ':']

/-- What stands between the braces of a reference. -/
def Reference.inner : Reference → List Char
  | value name => name.toList
  | text name => textKeyword ++ name.toList
  | slot name => Slot.inner name
  | frontSide => "FrontSide".toList

/-- A side of a template as its writer means it. -/
inductive TemplateTree where
  | literal (s : String)
  | reference (r : Reference)
  | conditional (kind : Section) (name : String) (body : TemplateTree)
  | append (first second : TemplateTree)

/-- What is known about references and sections. -/
@[ext]
structure Reading where
  shown : Reference → Option String := fun _ => none
  shows : Section → String → Option Bool := fun _ _ => none

namespace Reading

/-- The reading that also knows the references that `more` knows. What was known stays. -/
def withShown (σ : Reading) (more : Reference → Option String) : Reading :=
  { σ with shown := fun r => σ.shown r <|> more r }

/-- The reading that also knows whether the sections of one kind and field show. -/
def withShows (σ : Reading) (kind : Section) (name : String) (b : Bool) : Reading :=
  { σ with shows := fun k n => σ.shows k n <|> if k = kind ∧ n = name then some b else none }

end Reading

namespace TemplateTree

/-- The text of a tree, where what `σ` knows is written out. -/
def read (σ : Reading) : TemplateTree → List Char
  | literal s => s.toList
  | reference r =>
    match σ.shown r with
    | some s => s.toList
    | none => tag r.inner
  | conditional kind name body =>
    match σ.shows kind name with
    | some true => body.read σ
    | some false => []
    | none => tag (kind.sign :: name.toList) ++ (body.read σ ++ tag ('/' :: name.toList))
  | append first second => first.read σ ++ second.read σ

/-- The template as it is written. -/
def written (t : TemplateTree) : String := String.ofList (t.read {})

/-- The text that a tree stands for. -/
def eval (σ : Reading) (t : TemplateTree) : String := String.ofList (t.read σ)

/-- The fields that a tree has sections of. -/
def sections : TemplateTree → List String
  | literal _ => []
  | reference _ => []
  | conditional _ name body => name :: body.sections
  | append first second => first.sections ++ second.sections

/-- A tree with references in `P`, sections of fields in `Q` and no braces elsewhere, where no
section holds another section of its field. -/
def WellFormed (P : Reference → Prop) (Q : String → Prop) : TemplateTree → Prop
  | literal s => BraceFree s.toList
  | reference r => P r
  | conditional _ name body => Q name ∧ body.WellFormed P Q ∧ name ∉ body.sections
  | append first second => first.WellFormed P Q ∧ second.WellFormed P Q

theorem WellFormed.mono {P P' : Reference → Prop} {Q : String → Prop} {t : TemplateTree}
    (hP : ∀ r, P r → P' r) (ht : t.WellFormed P Q) : t.WellFormed P' Q := by
  induction t with
  | literal s => exact ht
  | reference r => exact hP r ht
  | conditional kind name body ih => exact ⟨ht.1, ih ht.2.1, ht.2.2⟩
  | append first second ih₁ ih₂ => exact ⟨ih₁ ht.1, ih₂ ht.2⟩

section Read

variable {P : Reference → Prop} {Q : String → Prop} {σ : Reading} {t : TemplateTree}

/-- Only what a tree holds matters to its text. -/
theorem read_congr {τ : Reading} (ht : t.WellFormed P Q)
    (hshown : ∀ r, P r → σ.shown r = τ.shown r)
    (hshows : ∀ kind name, Q name → name ∈ t.sections → σ.shows kind name = τ.shows kind name) :
    t.read σ = t.read τ := by
  induction t with
  | literal s => rfl
  | reference r => simp [read, hshown r ht]
  | conditional kind name body ih =>
    obtain ⟨hname, hbody, -⟩ := ht
    have hsections : ∀ k n, Q n → n ∈ body.sections → σ.shows k n = τ.shows k n :=
      fun k n hn hmem => hshows k n hn (List.mem_cons_of_mem name hmem)
    simp only [read, hshows kind name hname List.mem_cons_self, ih hbody hsections]
  | append first second ih₁ ih₂ =>
    rw [read, read, ih₁ ht.1 fun k n hn hmem => hshows k n hn (List.mem_append_left _ hmem),
      ih₂ ht.2 fun k n hn hmem => hshows k n hn (List.mem_append_right _ hmem)]

/-- No known text brings an opening brace along. -/
def Quiet (P : Reference → Prop) (σ : Reading) : Prop :=
  ∀ r s, P r → σ.shown r = some s → '{' ∉ s.toList

/-- The signs that opening and closing tags begin with. -/
def sectionSigns : List Char := ['#', '^', '/']

theorem sign_mem_sectionSigns (kind : Section) : kind.sign ∈ sectionSigns := by
  cases kind <;> decide

theorem braceFree_sign_cons {c : Char} (hc : c ∈ sectionSigns) {name : List Char}
    (hname : BraceFree name) : BraceFree (c :: name) := by
  simp only [sectionSigns, List.mem_cons, List.not_mem_nil, or_false] at hc
  obtain rfl | rfl | rfl := hc <;> exact braceFree_cons.2 ⟨by decide, hname⟩

/-- A pattern that takes exactly the references that `more` knows makes these known. -/
theorem rewrite_read {α : Type} {p : Pattern α} (hp : p.Opens) (f : α → List Char)
    (more : Reference → Option String) (ht : t.WellFormed P Q) (hσ : Quiet P σ)
    (hP : ∀ r, P r → BraceFree r.inner) (hQ : ∀ name, Q name → BraceFree name.toList)
    (hhit : ∀ r s u, P r → more r = some s →
      p.rewrite f (tag r.inner ++ u) = s.toList ++ p.rewrite f u)
    (hmiss : ∀ r u, P r → more r = none → p.matchAt (tag r.inner ++ u) = none)
    (hsection : ∀ c name u, c ∈ sectionSigns → Q name →
      p.matchAt (tag (c :: name.toList) ++ u) = none)
    (u : List Char) :
    p.rewrite f (t.read σ ++ u) = t.read (σ.withShown more) ++ p.rewrite f u := by
  induction t generalizing u with
  | literal s => exact p.rewrite_append_of_notMem hp f ht.1 u
  | reference r =>
    cases hr : σ.shown r with
    | some s =>
      simp only [read, Reading.withShown, hr]
      exact p.rewrite_append_of_notMem hp f (hσ r s ht hr) u
    | none =>
      cases hm : more r with
      | some s => simpa [read, Reading.withShown, hr, hm] using hhit r s u ht hm
      | none =>
        simpa [read, Reading.withShown, hr, hm] using
          p.rewrite_tag_miss hp f (hP r ht) (hmiss r u ht hm)
  | conditional kind name body ih =>
    obtain ⟨hname, hbody, -⟩ := ht
    cases hs : σ.shows kind name with
    | some b => cases b <;> simp [read, Reading.withShown, hs, ih hbody u]
    | none =>
      have hsign := sign_mem_sectionSigns kind
      have hslash : '/' ∈ sectionSigns := by decide
      have hopen := fun u => p.rewrite_tag_miss hp f (braceFree_sign_cons hsign (hQ name hname))
        (hsection kind.sign name u hsign hname)
      have hclose := p.rewrite_tag_miss hp f (braceFree_sign_cons hslash (hQ name hname))
        (hsection '/' name u hslash hname)
      simp only [read, Reading.withShown, hs, List.append_assoc, hopen]
      rw [ih hbody, hclose]
      simp [Reading.withShown]
  | append first second ih₁ ih₂ =>
    simp only [read, List.append_assoc, ih₁ ht.1, ih₂ ht.2]

/-- The closing tag of a field stands nowhere in a tree without sections of the field. -/
theorem splitAt?_closeTag_read (ht : t.WellFormed P Q) (hσ : Quiet P σ)
    {name : String} (hname : BraceFree name.toList) (hnone : name ∉ t.sections)
    (hP : ∀ r, P r → BraceFree r.inner ∧ r.inner ≠ '/' :: name.toList)
    (hQ : ∀ name, Q name → BraceFree name.toList) (u : List Char) :
    splitAt? (Section.closeTag name) (t.read σ ++ u) =
      (splitAt? (Section.closeTag name) u).map fun (front, rest) => (t.read σ ++ front, rest) := by
  have hclose : BraceFree ('/' :: name.toList) := braceFree_sign_cons (by decide) hname
  change splitAt? (tag ('/' :: name.toList)) _ = (splitAt? (tag ('/' :: name.toList)) u).map _
  induction t generalizing u with
  | literal s => exact splitAt?_append_of_notMem ht.1 _ u
  | reference r =>
    cases hr : σ.shown r with
    | some s =>
      simp only [read, hr]
      exact splitAt?_append_of_notMem (hσ r s ht hr) _ u
    | none =>
      simp only [read, hr]
      exact splitAt?_tag_append u (hP r ht).1 hclose (hP r ht).2
  | conditional kind m body ih =>
    obtain ⟨hm, hbody, -⟩ := ht
    simp only [sections, List.mem_cons, not_or] at hnone
    have ihbody := ih hbody hnone.2
    cases hs : σ.shows kind m with
    | some b =>
      cases b
      · simp [read, hs]
      · simpa [read, hs] using ihbody u
    | none =>
      have hopen := fun u => splitAt?_tag_append u
        (braceFree_sign_cons (sign_mem_sectionSigns kind) (hQ m hm)) hclose
        (by cases kind <;> simp [Section.sign])
      have hslash := splitAt?_tag_append u
        (braceFree_sign_cons (c := '/') (by decide) (hQ m hm)) hclose
        (by simpa using fun h => hnone.1 (String.toList_inj.1 h).symm)
      simp only [read, hs, List.append_assoc, hopen, ihbody, hslash, Option.map_map]
      congr 1
  | append first second ih₁ ih₂ =>
    simp only [sections, List.mem_append, not_or] at hnone
    simp only [read, List.append_assoc, ih₁ ht.1 hnone.1, ih₂ ht.2 hnone.2, Option.map_map]
    congr 1

/-- The sections of one kind and field are decided all at once. -/
theorem rewrite_conditional_read (ht : t.WellFormed P Q) (hσ : Quiet P σ) (kind : Section)
    {name : String} (hname : BraceFree name.toList) (b : Bool)
    (hP : ∀ r, P r → BraceFree r.inner ∧ ∀ c ∈ sectionSigns, r.inner ≠ c :: name.toList)
    (hQ : ∀ name, Q name → BraceFree name.toList) (u : List Char) :
    (kind.patternFor name).rewrite (fun body => (if b then body else "").toList)
        (t.read σ ++ u) =
      t.read (σ.withShows kind name b) ++
        (kind.patternFor name).rewrite (fun body => (if b then body else "").toList) u := by
  have hp := kind.patternFor_opens name
  have hmiss := fun x (hx : BraceFree x) => kind.patternFor_matchAt_tag_eq_none hname hx
  induction t generalizing u with
  | literal s => exact Pattern.rewrite_append_of_notMem hp _ ht.1 u
  | reference r =>
    cases hr : σ.shown r with
    | some s =>
      simp only [read, Reading.withShows, hr]
      exact Pattern.rewrite_append_of_notMem hp _ (hσ r s ht hr) u
    | none =>
      obtain ⟨hfree, hne⟩ := hP r ht
      simp only [read, Reading.withShows, hr]
      exact Pattern.rewrite_tag_miss hp _ hfree
        (hmiss _ hfree (hne _ (sign_mem_sectionSigns kind)) u)
  | conditional k m body ih =>
    obtain ⟨hm, hbody, hnest⟩ := ht
    cases hs : σ.shows k m with
    | some d => cases d <;> simp [read, Reading.withShows, hs, ih hbody u]
    | none =>
      by_cases hsame : k = kind ∧ m = name
      · obtain ⟨rfl, rfl⟩ := hsame
        -- The section itself: its body holds no closing tag of its own.
        have hsplit := splitAt?_closeTag_read hbody hσ hname hnest
          (fun r hr => ⟨(hP r hr).1, (hP r hr).2 '/' (by decide)⟩) hQ
          (tag ('/' :: m.toList) ++ u)
        have hbodyCongr : body.read (σ.withShows k m b) = body.read σ :=
          read_congr hbody (fun _ _ => rfl) fun k' n _ hn => by
            have : n ≠ m := fun h => hnest (h ▸ hn)
            simp [Reading.withShows, this]
        have hmatch : (k.patternFor m).matchAt
            (tag (k.sign :: m.toList) ++ (body.read σ ++ (tag ('/' :: m.toList) ++ u))) =
            some (String.ofList (body.read σ), u) := by
          rw [Section.patternFor_matchAt_open, hsplit, Section.closeTag, ← tag,
            splitAt?_hit (after?_append _ _)]
          simp
        simp only [read, hs, List.append_assoc]
        rw [Pattern.rewrite_hit _ _ hmatch]
        cases b <;> simp [Reading.withShows, hs] at hbodyCongr ⊢
        exact hbodyCongr.symm
      · have hopenFree := braceFree_sign_cons (sign_mem_sectionSigns k) (hQ m hm)
        have hslashFree := braceFree_sign_cons (c := '/') (by decide) (hQ m hm)
        have hopenNe : k.sign :: m.toList ≠ kind.sign :: name.toList := by
          intro h
          simp only [List.cons.injEq, String.toList_inj] at h
          refine hsame ⟨?_, h.2⟩
          cases k <;> cases kind <;> simp [Section.sign] at h ⊢
        have hslashNe : '/' :: m.toList ≠ kind.sign :: name.toList := by
          cases kind <;> simp [Section.sign]
        have hopen := fun u => Pattern.rewrite_tag_miss hp
          (fun body => (if b then body else "").toList) hopenFree
          (hmiss _ hopenFree hopenNe u)
        have hclose := Pattern.rewrite_tag_miss hp
          (fun body => (if b then body else "").toList) hslashFree
          (hmiss _ hslashFree hslashNe u)
        simp only [read, hs, List.append_assoc, hopen]
        rw [ih hbody, hclose]
        simp [Reading.withShows, hs, hsame]
  | append first second ih₁ ih₂ =>
    simp only [read, List.append_assoc, ih₁ ht.1, ih₂ ht.2]

end Read

end TemplateTree

end Flashcard
