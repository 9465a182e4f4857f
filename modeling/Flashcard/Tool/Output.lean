import Flashcard.Stripper
import Flashcard.Tool.Cards
import Flashcard.Tool.Host

/-!
# What a run gives out

`writeCards` writes the sides of each card to files of their own and `summarize` shows each card
on a line. A card without sides has no files.
-/

namespace Flashcard.Tool

/-- The path of a name in a directory. -/
def joinPath (dir name : String) : String :=
  match dir.toList.getLast? with
  | none => name
  | some c => if c == '/' then dir ++ name else dir ++ "/" ++ name

def Side.fileName (ord : Ordinal) : Side → String
  | .front => toString ord ++ "-front.html"
  | .back => toString ord ++ "-back.html"

/-- The files of a list of cards with their contents, in the order they are written. -/
def cardFiles (dir : String) (cards : List RenderedCard) : List (String × String) :=
  cards.flatMap fun card =>
    match card.sides with
    | some sides =>
      [(joinPath dir (Side.fileName card.ordinal .front), sides.front),
        (joinPath dir (Side.fileName card.ordinal .back), sides.back)]
    | none => []

/-- Writes files one after another and stops at the first that cannot be written. -/
def writeFiles {m : Type → Type} [Monad m] (host : Host m) :
    List (String × String) → ExceptT RunError m Unit
  | [] => return
  | (path, content) :: files => do
    unless ← host.write path content do
      throw (.unwritten path)
    writeFiles host files

/-- Writes the sides of the cards into a directory, which is made if it is not there. -/
def writeCards {m : Type → Type} [Monad m] (host : Host m) (dir : String)
    (cards : List RenderedCard) : ExceptT RunError m Unit := do
  unless ← host.makeDirectories dir do
    throw (.uncreated dir)
  writeFiles host (cardFiles dir cards)

/-- What a page shows, on one line. -/
def visibleLine (html : String) : String := collapseSpace (visibleText html)

def summarizeCard (card : RenderedCard) : String :=
  "card " ++ toString card.ordinal ++ ": " ++
    match card.sides with
    | some sides => visibleLine sides.front ++ " | " ++ visibleLine sides.back
    | none => "skipped (front side is empty)"

def summarize (cards : List RenderedCard) : List String := cards.map summarizeCard

end Flashcard.Tool
