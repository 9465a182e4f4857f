import Flashcard.Tool.FileTree

/-!
# Changes to a tree of files

A node that is put somewhere stands there, and everything else stays (`FileTree.node?_put`). To make
a directory only adds directories (`FileTree.makeDirectories_grows`), and if that succeeds, the path
leads to a directory (`FileTree.exists_resolve?_of_made`).

Where a path leads depends on nothing but the directories of the tree. So a file that is put where
no directory stands takes no walk to another place (`FileTree.isDirectory_put_file`,
`FileTree.resolve?_congr`).
-/

namespace Flashcard

section SplitAll

variable {α : Type} {p : α → Bool}

theorem splitAll_ne_nil (s : List α) : splitAll p s ≠ [] := by
  cases s with
  | nil => exact List.cons_ne_nil _ _
  | cons a s =>
    rw [splitAll]
    split
    · exact List.cons_ne_nil _ _
    · split <;> exact List.cons_ne_nil _ _

theorem splitAll_append_cons {a : α} (ha : p a = true) (u v : List α) :
    splitAll p (u ++ a :: v) = splitAll p u ++ splitAll p v := by
  induction u with
  | nil => simp [splitAll, ha]
  | cons b u ih =>
    rw [List.cons_append, splitAll, splitAll, ih]
    split
    · rfl
    · cases h : splitAll p u with
      | nil => exact absurd h (splitAll_ne_nil u)
      | cons part parts => rfl

end SplitAll

theorem splitAll_of_notMem {a : Char} {s : List Char} (h : a ∉ s) : splitAll (· == a) s = [s] := by
  induction s with
  | nil => rfl
  | cons c s ih =>
    simp only [List.mem_cons, not_or] at h
    have hc : (c == a) = false := beq_false_of_ne (Ne.symm h.1)
    rw [splitAll, ih h.2, hc]
    rfl

namespace Tool

/-- Whether a place holds a directory in every tree. -/
def Place.isFixed (place : Place) : Bool := place = ["/"] || place.all (· == "..")

namespace FileTree

variable {t t' : FileTree}

theorem node?_of_isFixed {q : Place} (hq : q.isFixed = true) (t : FileTree) :
    t.node? q = some .directory := if_pos hq

theorem node?_of_not_isFixed {q : Place} (hq : ¬ q.isFixed = true) (t : FileTree) :
    t.node? q = t.nodes.lookup q := if_neg hq

theorem isDirectory_iff {q : Place} : t.isDirectory q ↔ t.node? q = some .directory := by
  rw [isDirectory]
  split
  · next h => simp [h]
  · next h => simpa using h

theorem not_isFixed_of_ne {q : Place} (h : t.node? q ≠ some .directory) : ¬ q.isFixed = true :=
  fun hq => h (t.node?_of_isFixed hq)

theorem not_isFixed_of_eq_none {q : Place} (h : t.node? q = none) : ¬ q.isFixed = true :=
  not_isFixed_of_ne (by rw [h]; nofun)

theorem lookup_filter_ne {place q : Place} (hq : q ≠ place) (nodes : List (Place × Node)) :
    (nodes.filter (·.1 != place)).lookup q = nodes.lookup q := by
  induction nodes with
  | nil => rfl
  | cons entry nodes ih =>
    obtain ⟨there, node⟩ := entry
    by_cases hthere : there = place
    · have hne : (q == there) = false := by simp [hthere, hq]
      rw [List.filter_cons_of_neg (by simp [hthere]), ih, List.lookup_cons, hne]
    · rw [List.filter_cons_of_pos (by simp [hthere]), List.lookup_cons, List.lookup_cons, ih]

/-- What stands in a tree after a node was put into it. -/
theorem node?_put {place : Place} (hplace : ¬ place.isFixed = true) (t : FileTree) (node : Node)
    (q : Place) : (t.put place node).node? q = if q = place then some node else t.node? q := by
  by_cases hq : q = place
  · subst hq
    rw [if_pos rfl, node?_of_not_isFixed hplace, put, List.lookup_cons, beq_self_eq_true]
  · rw [if_neg hq]
    by_cases hfixed : q.isFixed = true
    · rw [node?_of_isFixed hfixed, node?_of_isFixed hfixed]
    · have hne : (q == place) = false := beq_false_of_ne hq
      rw [node?_of_not_isFixed hfixed, node?_of_not_isFixed hfixed, put, List.lookup_cons, hne]
      exact lookup_filter_ne hq t.nodes

/-! ### Directories -/

/-- Whether `t'` is `t` with directories added where nothing stood. -/
def Grows (t t' : FileTree) : Prop :=
  ∀ q, t'.node? q = t.node? q ∨ t.node? q = none ∧ t'.node? q = some .directory

theorem Grows.refl (t : FileTree) : t.Grows t := fun _ => Or.inl rfl

theorem Grows.trans {t'' : FileTree} (h : t.Grows t') (h' : t'.Grows t'') : t.Grows t'' := by
  intro q
  obtain heq | ⟨hnone, hdir⟩ := h q
  · rw [← heq]
    exact h' q
  · obtain heq' | ⟨hnone', -⟩ := h' q
    · exact Or.inr ⟨hnone, heq'.trans hdir⟩
    · rw [hdir] at hnone'
      cases hnone'

theorem Grows.node?_eq {q : Place} {node : Node} (h : t.Grows t') (hq : t.node? q = some node) :
    t'.node? q = some node := by
  obtain heq | ⟨hnone, -⟩ := h q
  · rw [heq, hq]
  · rw [hq] at hnone
    cases hnone

theorem Grows.isDirectory {q : Place} (h : t.Grows t') (hq : t.isDirectory q) :
    t'.isDirectory q := isDirectory_iff.2 (h.node?_eq (isDirectory_iff.1 hq))

theorem grows_put {place : Place} (h : t.node? place = none) :
    t.Grows (t.put place .directory) := by
  intro q
  rw [node?_put (not_isFixed_of_eq_none h)]
  by_cases hq : q = place
  · exact Or.inr ⟨hq ▸ h, if_pos hq⟩
  · exact Or.inl (if_neg hq)

theorem makeWay_grows (t : FileTree) (here : Place) (names : List String) :
    t.Grows (t.makeWay here names).1 := by
  induction names generalizing t here with
  | nil => exact .refl t
  | cons name names ih =>
    rw [makeWay]
    cases hthere : t.node? (here.enter name) with
    | none =>
      dsimp only
      split
      · exact (grows_put hthere).trans (ih _ _)
      · exact .refl t
    | some node =>
      cases node with
      | directory => exact ih _ _
      | file content => exact .refl t

theorem makeDirectories_grows (t : FileTree) (path : String) :
    t.Grows (t.makeDirectories path).1 := by
  rw [makeDirectories]
  dsimp only
  split
  · exact t.makeWay_grows _ _
  · exact t.makeWay_grows _ _

/-! ### Walks -/

@[simp] theorem walk?_nil (t : FileTree) (here : Place) : t.walk? here [] = some here := rfl

theorem walk?_cons (t : FileTree) (here : Place) (name : String) (names : List String) :
    t.walk? here (name :: names) =
      if !t.isDirectory here then none
      else if stays name then t.walk? here names
      else t.walk? (here.enter name) names := rfl

theorem walk?_append (t : FileTree) (here : Place) (names names' : List String) :
    t.walk? here (names ++ names') = (t.walk? here names).bind fun there =>
      t.walk? there names' := by
  induction names generalizing here with
  | nil => rfl
  | cons name names ih =>
    rw [List.cons_append, walk?_cons, walk?_cons]
    split
    · rfl
    · split
      · exact ih here
      · exact ih _

theorem isDirectory_of_walk?_cons {here place : Place} {name : String} {names : List String}
    (h : t.walk? here (name :: names) = some place) : t.isDirectory here := by
  rw [walk?_cons] at h
  cases hhere : t.isDirectory here with
  | true => rfl
  | false =>
    rw [hhere] at h
    cases h

theorem isDirectory_of_walk? {here place : Place} {names : List String}
    (h : t.walk? here names = some place) (hplace : t.isDirectory place) :
    t.isDirectory here := by
  cases names with
  | nil =>
    cases h
    exact hplace
  | cons name names => exact isDirectory_of_walk?_cons h

/-- Names that stay make no difference on a walk to a directory. -/
theorem walk?_of_filter {here place : Place} {names : List String}
    (h : t.walk? here (names.filter (!stays ·)) = some place) (hplace : t.isDirectory place) :
    t.walk? here names = some place := by
  induction names generalizing here with
  | nil => exact h
  | cons name names ih =>
    have hhere := isDirectory_of_walk? h hplace
    by_cases hname : stays name = true
    · rw [List.filter_cons_of_neg (by simp [hname])] at h
      simp [walk?_cons, hhere, hname, ih h]
    · rw [List.filter_cons_of_pos (by simp [hname])] at h
      simp only [walk?_cons, hhere, hname, Bool.not_true, Bool.false_eq_true, if_false] at h ⊢
      exact ih h

/-- A way that was made leads to a directory. -/
theorem exists_walk?_of_made {t t' : FileTree} {here : Place} {names : List String}
    (hnames : ∀ name ∈ names, stays name = false) (hhere : t.isDirectory here)
    (h : t.makeWay here names = (t', true)) :
    ∃ place, t'.walk? here names = some place ∧ t'.isDirectory place := by
  have hgrows : t.Grows t' := by
    have hway := t.makeWay_grows here names
    rwa [h] at hway
  -- The walk goes through the tree at the end, where every directory on the way is still there.
  induction names generalizing t here with
  | nil =>
    cases h
    exact ⟨here, rfl, hhere⟩
  | cons name names ih =>
    rw [List.forall_mem_cons] at hnames
    simp only [walk?_cons, hgrows.isDirectory hhere, hnames.1, Bool.not_true,
      Bool.false_eq_true, if_false]
    rw [makeWay] at h
    cases hthere : t.node? (here.enter name) with
    | none =>
      rw [hthere] at h
      dsimp only at h
      split at h
      · have hput : (t.put (here.enter name) .directory).isDirectory (here.enter name) := by
          rw [isDirectory_iff, node?_put (not_isFixed_of_eq_none hthere), if_pos rfl]
        have hlater := makeWay_grows (t.put (here.enter name) .directory) (here.enter name) names
        rw [h] at hlater
        exact ih hnames.2 hput h hlater
      · cases h
    | some node =>
      rw [hthere] at h
      cases node with
      | directory => exact ih hnames.2 (isDirectory_iff.2 hthere) h hgrows
      | file content => cases h

theorem isDirectory_start (t : FileTree) (path : String) : t.isDirectory (pathParts path).1 := by
  refine isDirectory_iff.2 (node?_of_isFixed ?_ t)
  rw [pathParts]
  dsimp only
  split <;> rfl

/-- A path whose directory was made leads to a directory. -/
theorem exists_resolve?_of_made {path : String} (h : t.makeDirectories path = (t', true)) :
    ∃ place, t'.resolve? path = some place ∧ t'.isDirectory place := by
  rw [makeDirectories] at h
  dsimp only at h
  split at h
  · obtain ⟨rfl, hmade⟩ := Prod.mk.inj h
    rw [Bool.and_eq_true, Option.any_eq_true] at hmade
    exact hmade.2
  · obtain ⟨place, hplace, hdir⟩ :=
      exists_walk?_of_made (fun name hname => by simpa using (List.mem_filter.1 hname).2)
        (t.isDirectory_start path) h
    exact ⟨place, walk?_of_filter hplace hdir, hdir⟩

theorem walk?_congr (h : ∀ q, t'.isDirectory q = t.isDirectory q) (here : Place)
    (names : List String) : t'.walk? here names = t.walk? here names := by
  induction names generalizing here with
  | nil => rfl
  | cons name names ih => rw [walk?_cons, walk?_cons, h, ih, ih]

/-- Where a path leads depends on the directories. -/
theorem resolve?_congr (h : ∀ q, t'.isDirectory q = t.isDirectory q) (path : String) :
    t'.resolve? path = t.resolve? path := walk?_congr h _ _

/-- A file changes no directory. -/
theorem isDirectory_put_file {place : Place} (hplace : ¬ t.isDirectory place) (content : ByteArray)
    (q : Place) : (t.put place (.file content)).isDirectory q = t.isDirectory q := by
  have hfree := not_isFixed_of_ne (mt isDirectory_iff.2 hplace)
  rw [Bool.eq_iff_iff, isDirectory_iff, isDirectory_iff, node?_put hfree]
  by_cases hq : q = place
  · rw [if_pos hq, hq]
    simpa using mt isDirectory_iff.2 hplace
  · rw [if_neg hq]

/-! ### Names in a directory -/

/-- A name that a walk takes down into the directory. -/
structure IsPlain (name : String) : Prop where
  not_stays : stays name = false
  ne_up : name ≠ ".."
  slash : '/' ∉ name.toList

section Plain

variable {name : String} (hname : IsPlain name)
include hname

theorem IsPlain.not_isFixed (here : Place) : ¬ Place.isFixed (here ++ [name]) = true := by
  have hroot : name ≠ "/" := by
    rintro rfl
    exact hname.slash (by decide)
  simp [Place.isFixed, hname.ne_up, hroot, List.append_eq_singleton_iff]

theorem walk?_plain {place : Place} (hplace : t.isDirectory place) :
    t.walk? place [name] = some (place ++ [name]) := by
  have henter : place.enter name = place ++ [name] := by
    rw [Place.enter, if_neg (by simpa using hname.ne_up)]
  simp [walk?_cons, hplace, hname.not_stays, henter]

end Plain

theorem pathParts_of_notMem {path : String} (hpath : '/' ∉ path.toList) :
    pathParts path = ([], [path]) := by
  have hhead : path.toList.head? ≠ some '/' := fun h => hpath (List.mem_of_mem_head? h)
  rw [pathParts, splitAll_of_notMem hpath, if_neg hhead]
  simp

theorem pathParts_of_slash {path name : String} {u : List Char} (hname : '/' ∉ name.toList)
    (hpath : path.toList = u ++ '/' :: name.toList) :
    pathParts path = (if (u ++ ['/']).head? = some '/' then ["/"] else [],
      (splitAll (· == '/') u).map String.ofList ++ [name]) := by
  have hlast := splitAll_of_notMem hname
  have hhead : (u ++ '/' :: name.toList).head? = (u ++ ['/']).head? := by cases u <;> rfl
  rw [pathParts, hpath, splitAll_append_cons rfl, hlast, hhead]
  simp

end FileTree

end Tool

end Flashcard
