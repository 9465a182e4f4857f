import Flashcard.Text.Blank
import Flashcard.Text.Split

/-!
# Environment files

An environment file gives variables their values, line by line. A value may be quoted: in single
quotes every character stands for itself, and elsewhere a backslash takes the meaning of the next
character and a dollar sign puts in a variable. A quoted value may run over line ends. A comment
runs from a `#` after white space to the end of its line.

The file is read up to the first line that is not of this form. What comes before it counts.
-/

namespace Flashcard.Tool

abbrev Environment := List (String × String)

/-- A part of a value. -/
inductive Piece where
  | char (c : Char)
  /-- The value of a variable. -/
  | reference (name : String)
deriving DecidableEq, Repr

/-- A variable with its value. -/
structure Assignment where
  name : String
  value : List Piece
deriving DecidableEq, Repr

namespace Environment

def valueOf (env : Environment) (piece : Piece) : String :=
  match piece with
  | .char c => c.toString
  | .reference name => (env.lookup name).getD ""

/-- Adds a variable. A variable that is there keeps its value. -/
def assign (env : Environment) (a : Assignment) : Environment :=
  if (env.lookup a.name).isSome then env
  else env ++ [(a.name, String.join (a.value.map env.valueOf))]

end Environment

/-- The variables that an assignment sets or puts in. -/
def Assignment.names (a : Assignment) : List String :=
  a.name :: a.value.filterMap fun
    | .char _ => none
    | .reference name => some name

/-! ### Lines -/

/-- Where a line stands with its quotes. -/
inductive Quoting where
  | plain
  | escaped
  | single
  | singleEscaped
  | double
  | doubleEscaped
  | space
deriving DecidableEq, Repr

/-- A comment begins at a `#` after a single white space. -/
def Quoting.next : Quoting → Char → Quoting
  | .escaped, _ => .plain
  | .single, '\'' => .plain
  | .single, '\\' => .singleEscaped
  | .single, _ => .single
  | .singleEscaped, _ => .single
  | .double, '"' => .plain
  | .double, '\\' => .doubleEscaped
  | .double, _ => .double
  | .doubleEscaped, _ => .double
  | .plain, '\\' => .escaped
  | .plain, '"' => .double
  | .plain, '\'' => .single
  | .plain, c => if isSpace c && c != '\n' && c != '\r' then .space else .plain
  | .space, '\\' => .escaped
  | .space, '"' => .double
  | .space, '\'' => .single
  | .space, _ => .plain

/-- Follows the quotes through a line. Gives the text before a comment, or where the line stands at
its end. -/
def followQuotes (q : Quoting) (before : List Char) : List Char → Quoting ⊕ List Char
  | [] => .inl q
  | c :: s =>
    if q = .space && c == '#' then .inr before.reverse else followQuotes (q.next c) (c :: before) s

def dropLineEnd (s : List Char) : List Char :=
  match s.reverse with
  | '\n' :: '\r' :: r => r.reverse
  | '\n' :: r => r.reverse
  | _ => s

def startsComment (s : List Char) : Bool := (s.dropWhile isSpace).head? == some '#'

/-- A line of a file. One that cannot be read is `none`. -/
abbrev Line := Option (List Char)

/-- Joins lines while a quote is open, where `text` has been read of a joined line. A line that
does not end cannot be read. -/
def joinLines (q : Quoting) (text : List Char) : List Line → List Line
  | [] => if q = .plain then [] else [none]
  | none :: _ => [none]
  | some line :: lines =>
    if startsComment (text ++ line) then joinLines .plain [] lines
    else
      match followQuotes q [] line with
      | .inr before => some (text ++ before) :: joinLines .plain [] lines
      | .inl .plain => some (dropLineEnd (text ++ line)) :: joinLines .plain [] lines
      | .inl q => joinLines q (text ++ line) lines

/-! ### Values -/

/-- What the next character of a value means. -/
inductive ValueMode where
  | plain
  | single
  | double
  | escaped (inDouble : Bool)
  /-- After a dollar sign and these characters. -/
  | reference (inDouble : Bool) (name : List Char)
  /-- After a dollar sign, a brace and these characters. -/
  | braced (inDouble : Bool) (name : List Char)
  /-- After the value. -/
  | ended
deriving DecidableEq, Repr

namespace ValueMode

def outside (inDouble : Bool) : ValueMode := if inDouble then .double else .plain

/-- Characters beyond ASCII count as letters. -/
def isNameChar (c : Char) : Bool := c.isAlphanum || c.toNat ≥ 0x80

/-- The character that a backslash and `c` stand for. -/
def unescape? (c : Char) : Option Char :=
  match c with
  | '\\' | '\'' | '"' | '$' | ' ' => some c
  | 'n' => some '\n'
  | _ => none

/-- The pieces that a character completes and the mode after it, if it may stand there. -/
def step (mode : ValueMode) (c : Char) : Option (List Piece × ValueMode) :=
  match mode with
  | plain =>
    if c == '$' then some ([], reference false [])
    else if c == '\'' then some ([], single)
    else if c == '"' then some ([], double)
    else if c == '\\' then some ([], escaped false)
    else if c == ' ' || c == '\t' then some ([], ended)
    else some ([.char c], plain)
  | single => if c == '\'' then some ([], plain) else some ([.char c], single)
  | double =>
    if c == '$' then some ([], reference true [])
    else if c == '"' then some ([], plain)
    else if c == '\\' then some ([], escaped true)
    else some ([.char c], double)
  | escaped inDouble => (unescape? c).map fun c => ([.char c], outside inDouble)
  | reference inDouble name =>
    if isNameChar c then some ([], reference inDouble (name ++ [c]))
    else if c == '{' && name.isEmpty then some ([], braced inDouble [])
    else
      let piece := Piece.reference (String.ofList name)
      if c == '$' then some ([piece], reference inDouble [])
      else some ([piece, .char c], outside inDouble)
  | braced inDouble name =>
    if c == '}' then some ([.reference (String.ofList name)], outside inDouble)
    else some ([], braced inDouble (name ++ [c]))
  | ended => if c == ' ' || c == '\t' then some ([], ended) else none

/-- The pieces that the end of the value completes, if it may end there. -/
def finish : ValueMode → Option (List Piece)
  | plain | escaped false | ended => some []
  | reference false name => some [.reference (String.ofList name)]
  | _ => none

end ValueMode

/-- Reads a value. A comment may follow after white space. -/
def readValue (mode : ValueMode) : List Char → Option (List Piece)
  | [] => mode.finish
  | c :: s =>
    if mode = .ended && c == '#' then some []
    else do
      let (pieces, mode) ← mode.step c
      return pieces ++ (← readValue mode s)

/-! ### Assignments -/

/-- The name of a variable at the front of a text, and the text after it. -/
def readName (s : List Char) : Option (String × List Char) :=
  match s with
  | c :: _ =>
    if c.isAlpha || c == '_' then
      let inName (c : Char) := c.isAlphanum || c == '_' || c == '.'
      some (String.ofList (s.takeWhile inName), s.dropWhile inName)
    else none
  | [] => none

/-- The text after an equals sign, which white space may precede. -/
def afterEquals? (s : List Char) : Option (List Char) :=
  match s.dropWhile isSpace with
  | '=' :: s => some s
  | _ => none

/-- The name that is set and the text of its value. The word `export` may stand in front. -/
def readTarget (s : List Char) : Option (String × List Char) := do
  let (name, s) ← readName s
  match afterEquals? s with
  | some value => return (name, value)
  | none =>
    guard (name == "export")
    let (name, s) ← readName (s.dropWhile isSpace)
    return (name, ← afterEquals? s)

def trimEnd (s : List Char) : List Char := (s.reverse.dropWhile isSpace).reverse

/-- Reads a line that may hold an assignment; `none` if it is not of the form. -/
def readAssignment (line : List Char) : Option (Option Assignment) := do
  let s := (trimEnd line).dropWhile isSpace
  if s.isEmpty || startsComment s then
    return none
  let (name, value) ← readTarget s
  if value.all isSpace || startsComment value then
    return some ⟨name, []⟩
  return some ⟨name, ← readValue .plain (value.dropWhile isSpace)⟩

/-- The assignments before the first line that is not of the form. -/
def readAssignments : List Line → List Assignment
  | [] => []
  | line :: lines =>
    match line.bind readAssignment with
    | none => []
    | some none => readAssignments lines
    | some (some a) => a :: readAssignments lines

def dropByteOrderMark : List Line → List Line
  | some ('\uFEFF' :: line) :: lines => some line :: lines
  | lines => lines

/-- The lines of a file, each with its end. -/
def fileLines (content : ByteArray) : List Line :=
  (splitAfter (· == 10) content.toList).map fun line =>
    (String.fromUTF8? ⟨line.toArray⟩).map String.toList

/-- The assignments in an environment file. -/
def Environment.read (content : ByteArray) : List Assignment :=
  readAssignments (joinLines .plain [] (dropByteOrderMark (fileLines content)))

end Flashcard.Tool
