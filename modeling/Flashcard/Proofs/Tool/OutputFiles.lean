import Flashcard.Proofs.Text.Decimal
import Flashcard.Proofs.Tool.FileTree
import Flashcard.Tool.Run
import Mathlib.Data.List.Basic

/-!
# The files of a run

`writeCards` makes a directory and writes the sides of the cards into it, one file after another.
The files have names of their own (`resolve?_fileName_injective`), so each write leaves the others
alone. A write fails only where a directory stands, and a file changes no directory. So which of
the writes fails is settled before the first one, and what a run has written is a list of sides from
the front (`exists_runOn_writeFiles`, `HasWritten`).

Reading and rendering leave the files as they are (`keepsTree_renderCards`).
-/

namespace Flashcard.Tool

/-- What a file is to hold: one side of a card. -/
structure CardSide where
  ordinal : Ordinal
  side : Side
  text : String

def CardSide.name (e : CardSide) : String := Side.fileName e.ordinal e.side

/-- The sides of the cards that have any, in the order they are written. -/
def cardSides (cards : List RenderedCard) : List CardSide :=
  cards.flatMap fun card =>
    match card.sides with
    | some sides => [⟨card.ordinal, .front, sides.front⟩, ⟨card.ordinal, .back, sides.back⟩]
    | none => []

theorem cardFiles_eq (dir : String) (cards : List RenderedCard) :
    cardFiles dir cards = (cardSides cards).map fun e => (joinPath dir e.name, e.text) := by
  rw [cardFiles, cardSides, List.map_flatMap]
  congr 1
  funext card
  cases card.sides <;> rfl

/-! ### Names -/

def Side.ending : Side → String
  | .front => "front.html"
  | .back => "back.html"

theorem toList_fileName (ord : Ordinal) (side : Side) :
    (Side.fileName ord side).toList =
      Nat.toDigits 10 ord.toNat ++ '-' :: (Side.ending side).toList := by
  have hname : Side.fileName ord side = toString ord ++ ("-" ++ Side.ending side) := by
    cases side
    · exact congrArg (toString ord ++ ·) (by decide : "-front.html" = "-" ++ "front.html")
    · exact congrArg (toString ord ++ ·) (by decide : "-back.html" = "-" ++ "back.html")
  have hord : toString ord = String.ofList (Nat.toDigits 10 ord.toNat) :=
    Nat.toString_eq_ofList_toDigits
  rw [hname, hord, String.toList_append, String.toList_append, String.toList_ofList]
  rfl

theorem isPlain_fileName (ord : Ordinal) (side : Side) :
    FileTree.IsPlain (Side.fileName ord side) := by
  have hdash : '-' ∈ (Side.fileName ord side).toList := by
    rw [toList_fileName]
    simp
  have hne (name : String) (h : '-' ∉ name.toList) : Side.fileName ord side ≠ name := by
    rintro rfl
    exact h hdash
  refine ⟨?_, hne ".." (by decide), ?_⟩
  · have hempty := hne "" (by decide)
    have hdot := hne "." (by decide)
    simp [stays, hempty, hdot]
  · have hending : '/' ∉ (Side.ending side).toList := by cases side <;> decide
    rw [toList_fileName, List.mem_append, List.mem_cons]
    rintro (hdigit | hslash | hslash)
    · exact absurd (isDecimalDigit_of_mem_toDigits hdigit) (by decide)
    · exact absurd hslash (by decide)
    · exact hending hslash

/-- No two sides have one name. -/
theorem fileName_injective {ord ord' : Ordinal} {side side' : Side}
    (h : Side.fileName ord side = Side.fileName ord' side') : ord = ord' ∧ side = side' := by
  have hdash (n : Nat) : '-' ∉ Nat.toDigits 10 n := fun hmem =>
    absurd (isDecimalDigit_of_mem_toDigits hmem) (by decide)
  have hend : '-' ∉ (Side.ending side).toList := by cases side <;> decide
  have hlist := congrArg String.toList h
  rw [toList_fileName, toList_fileName] at hlist
  obtain ⟨hdigits, -, hending⟩ := (List.append_cons_inj_of_notMem (hdash _) hend).1 hlist
  constructor
  · have hnat := congrArg decimalValue hdigits
    rw [decimalValue_toDigits, decimalValue_toDigits] at hnat
    cases ord
    cases ord'
    cases hnat
    rfl
  · cases side <;> cases side' <;> first | rfl | exact absurd hending (by decide)

/-! ### Paths -/

/-- The path of a name is the directory's with the name behind a slash, unless the directory has no
path or ends in a slash. -/
theorem joinPath_cases (dir : String) :
    (dir = "" ∧ ∀ name, joinPath dir name = name) ∨
      (∃ u, dir.toList = u ++ ['/'] ∧
        ∀ name, (joinPath dir name).toList = u ++ '/' :: name.toList) ∨
      dir.toList ≠ [] ∧ ∀ name, (joinPath dir name).toList = dir.toList ++ '/' :: name.toList := by
  cases hlast : dir.toList.getLast? with
  | none =>
    have hdir := hlast
    rw [List.getLast?_eq_none_iff, String.toList_eq_nil_iff] at hdir
    exact Or.inl ⟨hdir, fun name => by rw [joinPath, hlast]⟩
  | some c =>
    obtain ⟨u, hu⟩ := List.getLast?_eq_some_iff.1 hlast
    by_cases hc : c = '/'
    · refine Or.inr (Or.inl ⟨u, by rw [hu, hc], fun name => ?_⟩)
      simp [joinPath, hc, hu]
    · refine Or.inr (Or.inr ⟨by simp [hu], fun name => ?_⟩)
      simp [joinPath, hlast, hc]

/-- The paths of names in a directory lead down from one place. -/
theorem exists_resolve?_joinPath (t : FileTree) (dir : String) :
    ∃ base : Option Place,
      (∀ name, FileTree.IsPlain name → t.resolve? (joinPath dir name) =
        base.bind fun place => t.walk? place [name]) ∧
      ∀ place, t.resolve? dir = some place → t.isDirectory place → base = some place := by
  obtain ⟨rfl, hjoin⟩ | ⟨u, hu, hjoin⟩ | ⟨hne, hjoin⟩ := joinPath_cases dir
  · refine ⟨some [], fun name hname => ?_, fun place hplace _ => ?_⟩
    · rw [hjoin, FileTree.resolve?, FileTree.pathParts_of_notMem hname.slash]
      rfl
    · exact hplace
  · refine ⟨t.walk? (if (u ++ ['/']).head? = some '/' then ["/"] else [])
      ((splitAll (· == '/') u).map String.ofList), fun name hname => ?_,
      fun place hplace hdir => ?_⟩
    · rw [FileTree.resolve?, FileTree.pathParts_of_slash hname.slash (hjoin name)]
      exact t.walk?_append _ _ _
    · have hempty : '/' ∉ "".toList := by decide
      rw [FileTree.resolve?, FileTree.pathParts_of_slash hempty hu] at hplace
      dsimp only at hplace
      rw [FileTree.walk?_append, Option.bind_eq_some_iff] at hplace
      obtain ⟨there, hthere, hstay⟩ := hplace
      have hlast := FileTree.isDirectory_of_walk? hstay hdir
      simp only [FileTree.walk?, hlast, stays] at hstay
      rw [hthere]
      exact hstay
  · refine ⟨t.resolve? dir, fun name hname => ?_, fun place hplace _ => hplace⟩
    have hhead : (dir.toList ++ ['/']).head? = dir.toList.head? := by
      cases hdir : dir.toList with
      | nil => exact absurd hdir hne
      | cons c s => rfl
    rw [FileTree.resolve?, FileTree.pathParts_of_slash hname.slash (hjoin name), hhead]
    exact t.walk?_append _ _ _

/-- Two sides whose paths lead to one place are the same side of the same card. -/
theorem resolve?_fileName_injective {t : FileTree} {dir : String} {ord ord' : Ordinal}
    {side side' : Side} {place : Place}
    (h : t.resolve? (joinPath dir (Side.fileName ord side)) = some place)
    (h' : t.resolve? (joinPath dir (Side.fileName ord' side')) = some place) :
    ord = ord' ∧ side = side' := by
  obtain ⟨base, hbase, -⟩ := exists_resolve?_joinPath t dir
  rw [hbase _ (isPlain_fileName _ _), Option.bind_eq_some_iff] at h h'
  obtain ⟨there, rfl, hwalk⟩ := h
  obtain ⟨there', hthere, hwalk'⟩ := h'
  cases hthere
  have hhere := FileTree.isDirectory_of_walk?_cons hwalk
  rw [FileTree.walk?_plain (isPlain_fileName _ _) hhere] at hwalk hwalk'
  have hplace := Option.some.inj (hwalk.trans hwalk'.symm)
  exact fileName_injective (List.singleton_inj.1 (List.append_cancel_left hplace))

/-! ### Runs -/

/-- What an action gives on a tree of files, and the tree after it. -/
def runOn {α : Type} (action : ExceptT RunError (StateM FileTree) α) (t : FileTree) :
    Except RunError α × FileTree :=
  Id.run (action.run.run t)

theorem runOn_bind {α β : Type} (action : ExceptT RunError (StateM FileTree) α)
    (next : α → ExceptT RunError (StateM FileTree) β) (t : FileTree) :
    runOn (action >>= next) t =
      match runOn action t with
      | (.ok a, t) => runOn (next a) t
      | (.error e, t) => (.error e, t) := by
  simp only [runOn, ExceptT.run_bind, StateT.run_bind, Id.run_bind]
  cases Id.run (action.run.run t) with
  | mk outcome t' => cases outcome <;> rfl

variable (env : List (String × String)) (t : FileTree)

theorem runOn_writeFiles_cons (path content : String) (files : List (String × String)) :
    runOn (writeFiles (FileTree.host env) ((path, content) :: files)) t =
      match t.write path content with
      | (t, true) => runOn (writeFiles (FileTree.host env) files) t
      | (t, false) => (.error (.unwritten path), t) := by
  have hwrite : runOn (liftM ((FileTree.host env).write path content)) t =
      (.ok (t.write path content).2, (t.write path content).1) := rfl
  rw [writeFiles, runOn_bind, hwrite]
  cases h : t.write path content with
  | mk t' written => cases written <;> rfl

theorem runOn_writeCards (dir : String) (cards : List RenderedCard) :
    runOn (writeCards (FileTree.host env) dir cards) t =
      match t.makeDirectories dir with
      | (t, true) => runOn (writeFiles (FileTree.host env) (cardFiles dir cards)) t
      | (t, false) => (.error (.uncreated dir), t) := by
  have hmake : runOn (liftM ((FileTree.host env).makeDirectories dir)) t =
      (.ok (t.makeDirectories dir).2, (t.makeDirectories dir).1) := rfl
  rw [writeCards, runOn_bind, hmake]
  cases h : t.makeDirectories dir with
  | mk t' made => cases made <;> rfl

/-! ### Writing -/

/-- Puts a side into the directory at `place`. -/
def CardSide.putIn (place : Place) (t : FileTree) (e : CardSide) : FileTree :=
  t.put (place ++ [e.name]) (.file e.text.toUTF8)

section PutAll

variable {t : FileTree} {place : Place} {sides : List CardSide}

theorem node?_putIn (t : FileTree) (place : Place) (e : CardSide) (q : Place) :
    (e.putIn place t).node? q =
      if q = place ++ [e.name] then some (.file e.text.toUTF8) else t.node? q :=
  FileTree.node?_put ((isPlain_fileName _ _).not_isFixed place) t _ q

theorem node?_foldl_putIn_of_ne {q : Place} (h : ∀ e ∈ sides, q ≠ place ++ [e.name]) :
    (sides.foldl (CardSide.putIn place) t).node? q = t.node? q := by
  induction sides generalizing t with
  | nil => rfl
  | cons e sides ih =>
    rw [List.forall_mem_cons] at h
    rw [List.foldl_cons, ih h.2, node?_putIn, if_neg h.1]

theorem node?_foldl_putIn_last {before behind : List CardSide} {e : CardSide}
    (h : ∀ e' ∈ behind, ¬ (e'.ordinal = e.ordinal ∧ e'.side = e.side)) :
    ((before ++ e :: behind).foldl (CardSide.putIn place) t).node? (place ++ [e.name]) =
      some (.file e.text.toUTF8) := by
  have hbehind : ∀ e' ∈ behind, place ++ [e.name] ≠ place ++ [e'.name] := by
    intro e' he' heq
    have hname := List.singleton_inj.1 (List.append_cancel_left heq)
    obtain ⟨hord, hside⟩ := fileName_injective hname
    exact h e' he' ⟨hord.symm, hside.symm⟩
  rw [List.foldl_append, List.foldl_cons, node?_foldl_putIn_of_ne hbehind, node?_putIn, if_pos rfl]

/-- Files that are put where no directory stands leave the directories as they are. -/
theorem isDirectory_foldl_putIn (h : ∀ e ∈ sides, ¬ t.isDirectory (place ++ [e.name])) (q : Place) :
    (sides.foldl (CardSide.putIn place) t).isDirectory q = t.isDirectory q := by
  induction sides generalizing t with
  | nil => rfl
  | cons e sides ih =>
    rw [List.forall_mem_cons] at h
    have hput := FileTree.isDirectory_put_file h.1 e.text.toUTF8
    rw [List.foldl_cons, ih fun e' he' => ?_]
    · exact hput q
    · rw [CardSide.putIn, hput]
      exact h.2 e' he'

end PutAll

section Run

variable {t : FileTree} {dir : String} {place : Place}

theorem resolve?_side (hdir : t.resolve? dir = some place) (hplace : t.isDirectory place)
    (e : CardSide) : t.resolve? (joinPath dir e.name) = some (place ++ [e.name]) := by
  obtain ⟨base, hbase, hdirectory⟩ := exists_resolve?_joinPath t dir
  have hname := isPlain_fileName e.ordinal e.side
  rw [CardSide.name, hbase _ hname, hdirectory place hdir hplace]
  exact FileTree.walk?_plain hname hplace

/-- Sides are written up to the first whose place a directory has. -/
theorem exists_runOn_writeFiles (env : List (String × String)) (sides : List CardSide)
    (hdir : t.resolve? dir = some place) (hplace : t.isDirectory place) :
    ∃ done later, sides = done ++ later ∧
      (∀ e ∈ done, ¬ t.isDirectory (place ++ [e.name])) ∧
      (∀ e ∈ later.head?, t.isDirectory (place ++ [e.name])) ∧
      runOn (writeFiles (FileTree.host env) (sides.map fun e => (joinPath dir e.name, e.text))) t =
        (match later with
          | [] => .ok ()
          | e :: _ => .error (.unwritten (joinPath dir e.name)),
        done.foldl (CardSide.putIn place) t) := by
  induction sides generalizing t with
  | nil => exact ⟨[], [], rfl, nofun, nofun, rfl⟩
  | cons e sides ih =>
    rw [List.map_cons, runOn_writeFiles_cons, FileTree.write, resolve?_side hdir hplace]
    by_cases he : t.isDirectory (place ++ [e.name])
    · exact ⟨[], e :: sides, rfl, nofun, by simpa using he, by simp [he]⟩
    · -- The path of the directory still leads there, and the later writes fail as they did before.
      have hput := FileTree.isDirectory_put_file he e.text.toUTF8
      obtain ⟨done, later, hsides, hdone, hlater, hrun⟩ := ih
        (t := e.putIn place t) ((FileTree.resolve?_congr hput dir).trans hdir)
        ((hput place).trans hplace)
      refine ⟨e :: done, later, by rw [hsides, List.cons_append], ?_, ?_, ?_⟩
      · refine List.forall_mem_cons.2 ⟨he, fun e' he' => ?_⟩
        rw [← hput]
        exact hdone e' he'
      · intro e' he'
        rw [← hput]
        exact hlater e' he'
      · simp only [he]
        exact hrun

end Run

/-- Whether `t'` is `t` after the sides `done` were written into a directory one after another. Each
file holds the last side that was written to it. Elsewhere nothing has changed but for directories
that were made. -/
structure HasWritten (dir : String) (done : List CardSide) (t t' : FileTree) : Prop where
  holds : ∀ before e behind, done = before ++ e :: behind →
    (∀ e' ∈ behind, ¬ (e'.ordinal = e.ordinal ∧ e'.side = e.side)) →
      t'.read? (joinPath dir e.name) = some e.text.toUTF8
  unchanged : ∀ q, (∀ e ∈ done, t'.resolve? (joinPath dir e.name) ≠ some q) →
    t'.node? q = t.node? q ∨ t.node? q = none ∧ t'.node? q = some .directory

theorem hasWritten_foldl_putIn {t made : FileTree} {dir : String} {place : Place}
    {done : List CardSide} (hgrows : t.Grows made) (hdir : made.resolve? dir = some place)
    (hplace : made.isDirectory place) (hdone : ∀ e ∈ done, ¬ made.isDirectory (place ++ [e.name])) :
    HasWritten dir done t (done.foldl (CardSide.putIn place) made) := by
  have hsame := isDirectory_foldl_putIn hdone
  have hside := resolve?_side ((FileTree.resolve?_congr hsame dir).trans hdir)
    ((hsame place).trans hplace)
  constructor
  · rintro before e behind rfl hlast
    rw [FileTree.read?, hside e]
    simp only [Option.bind_eq_bind, Option.bind_some, node?_foldl_putIn_last hlast]
    rfl
  · intro q hq
    have hne : ∀ e ∈ done, q ≠ place ++ [e.name] := by
      rintro e he rfl
      exact hq e he (hside e)
    rw [node?_foldl_putIn_of_ne hne]
    exact hgrows q

def sideText (sides : Card) : Side → String
  | .front => sides.front
  | .back => sides.back

theorem exists_card_of_mem_cardSides {cards : List RenderedCard} {e : CardSide}
    (h : e ∈ cardSides cards) :
    ∃ card ∈ cards, card.ordinal = e.ordinal ∧ card.sides ≠ none := by
  obtain ⟨card, hcard, he⟩ := List.mem_flatMap.1 h
  refine ⟨card, hcard, ?_⟩
  cases hsides : card.sides with
  | none => simp [hsides] at he
  | some sides =>
    rw [hsides] at he
    simp only [List.mem_cons, List.not_mem_nil, or_false] at he
    obtain rfl | rfl := he <;> exact ⟨rfl, nofun⟩

/-- The sides of the last card of its ordinal are the last of their names. -/
theorem exists_cardSides_eq {before behind : List RenderedCard} {card : RenderedCard} {sides : Card}
    (hsides : card.sides = some sides)
    (hlast : ∀ c ∈ behind, c.ordinal = card.ordinal → c.sides = none) (side : Side) :
    ∃ u v, cardSides (before ++ card :: behind) =
        u ++ ⟨card.ordinal, side, sideText sides side⟩ :: v ∧
      ∀ e ∈ v, ¬ (e.ordinal = card.ordinal ∧ e.side = side) := by
  have hsplit : cardSides (before ++ card :: behind) = cardSides before ++
      (⟨card.ordinal, .front, sides.front⟩ :: ⟨card.ordinal, .back, sides.back⟩ ::
        cardSides behind) := by
    simp only [cardSides, List.flatMap_append, List.flatMap_cons, hsides]
    rfl
  have hbehind : ∀ e ∈ cardSides behind, e.ordinal ≠ card.ordinal := by
    intro e he heq
    obtain ⟨c, hc, hord, hne⟩ := exists_card_of_mem_cardSides he
    exact hne (hlast c hc (hord.trans heq))
  -- The back of the card itself comes after its front, so the two are split at different places.
  cases side with
  | front =>
    refine ⟨_, _, hsplit, List.forall_mem_cons.2 ⟨nofun, fun e he h => hbehind e he h.1⟩⟩
  | back =>
    refine ⟨cardSides before ++ [⟨card.ordinal, .front, sides.front⟩], cardSides behind, ?_,
      fun e he h => hbehind e he h.1⟩
    rw [hsplit, List.append_assoc]
    rfl

/-- The files of a card hold its sides, unless a later card of its ordinal has sides. -/
theorem HasWritten.read?_last {dir : String} {t t' : FileTree}
    {cards before behind : List RenderedCard} {card : RenderedCard} {sides : Card}
    (h : HasWritten dir (cardSides cards) t t') (hcards : cards = before ++ card :: behind)
    (hsides : card.sides = some sides)
    (hlast : ∀ c ∈ behind, c.ordinal = card.ordinal → c.sides = none) (side : Side) :
    t'.read? (joinPath dir (Side.fileName card.ordinal side)) =
      some (sideText sides side).toUTF8 := by
  subst hcards
  obtain ⟨u, v, huv, hv⟩ := exists_cardSides_eq hsides hlast side
  exact h.holds u ⟨card.ordinal, side, sideText sides side⟩ v huv hv

/-! ### Reading and rendering -/

/-- Whether an action leaves every tree as it is. -/
def KeepsTree {α : Type} (action : ExceptT RunError (StateM FileTree) α) : Prop :=
  ∀ t, (runOn action t).2 = t

theorem KeepsTree.bind {α β : Type} {action : ExceptT RunError (StateM FileTree) α}
    {next : α → ExceptT RunError (StateM FileTree) β} (h : KeepsTree action)
    (hnext : ∀ a, KeepsTree (next a)) : KeepsTree (action >>= next) := by
  intro t
  have hkept := h t
  rw [runOn_bind]
  cases hrun : runOn action t with
  | mk outcome t' =>
    rw [hrun] at hkept
    obtain rfl : t' = t := hkept
    cases outcome with
    | error e => rfl
    | ok a => exact hnext a t'

section Rendering

variable (env : List (String × String))

theorem keepsTree_readStored {α : Type} (decoder : Json.Decoder α) (path : String) :
    KeepsTree (readStored (FileTree.host env) decoder path) := by
  have hread : KeepsTree (liftM ((FileTree.host env).read path)) := fun _ => rfl
  refine hread.bind fun content => ?_
  cases content.bind String.fromUTF8? with
  | none => exact fun _ => rfl
  | some text =>
    dsimp only
    cases Json.decodeText decoder text <;> exact fun _ => rfl

theorem keepsTree_renderCards (options : Options) :
    KeepsTree (renderCards (FileTree.host env) options) := by
  have hsettings : KeepsTree (readSettings (FileTree.host env) options.settings) := by
    cases options.settings with
    | none => exact fun _ => rfl
    | some path => exact (keepsTree_readStored env _ path).bind fun _ _ => rfl
  refine (keepsTree_readStored env _ _).bind fun template => hsettings.bind fun settings => ?_
  dsimp only
  cases options.note with
  | none => exact fun _ => rfl
  | some path => exact (keepsTree_readStored env _ path).bind fun _ _ => rfl

theorem runOn_render (options : Options) (t : FileTree) :
    runOn (render (FileTree.host env) options) t =
      match (runOn (renderCards (FileTree.host env) options) t).1, options.out with
      | .error e, _ => (.error e, t)
      | .ok cards, none => (.ok (summarize cards), t)
      | .ok cards, some dir =>
        ((runOn (writeCards (FileTree.host env) dir cards) t).1.map fun _ => [],
          (runOn (writeCards (FileTree.host env) dir cards) t).2) := by
  have hkept := keepsTree_renderCards env options t
  rw [render, runOn_bind]
  cases hrun : runOn (renderCards (FileTree.host env) options) t with
  | mk outcome t' =>
    rw [hrun] at hkept
    obtain rfl : t' = t := hkept
    cases outcome with
    | error e => rfl
    | ok cards =>
      dsimp only
      cases options.out with
      | none => rfl
      | some dir =>
        dsimp only
        rw [runOn_bind]
        cases runOn (writeCards (FileTree.host env) dir cards) t' with
        | mk outcome t'' => cases outcome <;> rfl

end Rendering

/-! ### All together -/

/-- Where the directory was made, the sides were written up to one whose place a directory has. -/
theorem exists_runOn_writeCards (env : List (String × String)) (t : FileTree) (dir : String)
    (cards : List RenderedCard) :
    let out := runOn (writeCards (FileTree.host env) dir cards) t
    (out.1 = .error (.uncreated dir) ∧ t.Grows out.2) ∨
      ∃ done later, cardSides cards = done ++ later ∧ HasWritten dir done t out.2 ∧
        match later with
        | [] => out.1 = .ok ()
        | e :: _ => out.1 = .error (.unwritten (joinPath dir e.name)) ∧
          (out.2.resolve? (joinPath dir e.name)).any out.2.isDirectory := by
  intro out
  have hgrows := t.makeDirectories_grows dir
  have hout : out = _ := runOn_writeCards env t dir cards
  rw [cardFiles_eq] at hout
  cases hmake : t.makeDirectories dir with
  | mk made success =>
    rw [hmake] at hout hgrows
    cases success with
    | false => exact Or.inl ⟨congrArg Prod.fst hout, by rw [hout]; exact hgrows⟩
    | true =>
      obtain ⟨place, hdir, hplace⟩ := FileTree.exists_resolve?_of_made hmake
      obtain ⟨done, later, hsides, hdone, hlater, hrun⟩ :=
        exists_runOn_writeFiles env (cardSides cards) hdir hplace
      have hout := hout.trans hrun
      have hsame := isDirectory_foldl_putIn hdone
      refine Or.inr ⟨done, later, hsides, ?_, ?_⟩
      · rw [hout]
        exact hasWritten_foldl_putIn hgrows hdir hplace hdone
      · rw [hout]
        cases later with
        | nil => rfl
        | cons e later =>
          have hside := resolve?_side ((FileTree.resolve?_congr hsame dir).trans hdir)
            ((hsame place).trans hplace) e
          refine ⟨rfl, ?_⟩
          rw [hside, Option.any_some, hsame]
          exact hlater e rfl

/-- Cards are written side by side and in order, and each write takes effect before the next one.
Writing that succeeds leaves in each file the side of the last card that has the ordinal and any
sides; writing that fails at a file has written the sides before it and nothing else. No two sides
share a file. A run that fails before its cards are rendered leaves the files as they were. -/
theorem output_files_exact (env : List (String × String)) (t : FileTree) :
    (∀ dir cards,
      let out := runOn (writeCards (FileTree.host env) dir cards) t
      ((out.1 = .error (.uncreated dir) ∧ t.Grows out.2) ∨
        ∃ done later, cardSides cards = done ++ later ∧ HasWritten dir done t out.2 ∧
          match later with
          | [] => out.1 = .ok ()
          | e :: _ => out.1 = .error (.unwritten (joinPath dir e.name)) ∧
            (out.2.resolve? (joinPath dir e.name)).any out.2.isDirectory) ∧
      (out.1 = .ok () → HasWritten dir (cardSides cards) t out.2 ∧
        ∀ before card behind sides, cards = before ++ card :: behind →
          card.sides = some sides →
          (∀ c ∈ behind, c.ordinal = card.ordinal → c.sides = none) →
          ∀ side, out.2.read? (joinPath dir (Side.fileName card.ordinal side)) =
            some (sideText sides side).toUTF8) ∧
      ∀ ord side ord' side' place,
        out.2.resolve? (joinPath dir (Side.fileName ord side)) = some place →
        out.2.resolve? (joinPath dir (Side.fileName ord' side')) = some place →
        ord = ord' ∧ side = side') ∧
    (∀ options e, (runOn (renderCards (FileTree.host env) options) t).1 = .error e →
      runOn (render (FileTree.host env) options) t = (.error e, t)) ∧
    ∀ options dir cards, options.out = some dir →
      (runOn (renderCards (FileTree.host env) options) t).1 = .ok cards →
      runOn (render (FileTree.host env) options) t =
        ((runOn (writeCards (FileTree.host env) dir cards) t).1.map fun _ => [],
          (runOn (writeCards (FileTree.host env) dir cards) t).2) := by
  refine ⟨fun dir cards => ?_, fun options e he => ?_, fun options dir cards hdir hcards => ?_⟩
  · have hall := exists_runOn_writeCards env t dir cards
    refine ⟨hall, fun hok => ?_, fun _ _ _ _ _ => resolve?_fileName_injective⟩
    have hwritten : HasWritten dir (cardSides cards) t
        (runOn (writeCards (FileTree.host env) dir cards) t).2 := by
      obtain ⟨herror, -⟩ | ⟨done, later, hsides, hwritten, hlater⟩ := hall
      · rw [hok] at herror
        cases herror
      · cases later with
        | nil => rwa [hsides, List.append_nil]
        | cons e later =>
          rw [hok] at hlater
          cases hlater.1
    refine ⟨hwritten, fun before card behind sides hcards hsides hlast side => ?_⟩
    exact hwritten.read?_last hcards hsides hlast side
  · simp only [runOn_render, he]
  · simp only [runOn_render, hcards, hdir]

/-- Two cards of one ordinal with a card without sides between them, and a file of another name. -/
theorem output_files_exact_same_ordinal :
    let old : FileTree := ⟨[(["out", "notes"], .file "kept".toUTF8), (["out"], .directory)]⟩
    let cards : List RenderedCard :=
      [⟨.first, some ⟨"q", "a"⟩⟩, ⟨.first, none⟩, ⟨.first, some ⟨"Q", "A"⟩⟩, ⟨.first, none⟩]
    let out := runOn (writeCards (FileTree.host []) "out/" cards) old
    out.1 = .ok () ∧ out.2.read? "out/0-front.html" = some "Q".toUTF8 ∧
      out.2.read? "out/0-back.html" = some "A".toUTF8 := by
  intro old cards out
  have hok : out.1 = .ok () := rfl
  obtain ⟨-, hread⟩ := ((output_files_exact [] old).1 "out/" cards).2.1 hok
  have hcard := hread (cards.take 2) ⟨.first, some ⟨"Q", "A"⟩⟩ (cards.drop 3) ⟨"Q", "A"⟩ rfl rfl
    (by simp [cards])
  exact ⟨hok, hcard .front, hcard .back⟩

end Flashcard.Tool
