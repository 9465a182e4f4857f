import Flashcard.Text.Split
import Flashcard.Tool.Host

/-!
# Trees of files

A `FileTree` is a state of the files that the tool works on. Paths are walked name by name: every
directory on the way must be there, `.` stays and `..` goes up.

`FileTree.host` is the host whose files are such a tree.
-/

namespace Flashcard.Tool

/-- The names on the way from the working directory. A place outside it begins with `..` or with
`/`. -/
abbrev Place := List String

inductive Node where
  | directory
  | file (content : ByteArray)

/-- The directories and files, each at its place. -/
structure FileTree where
  nodes : List (Place × Node)

/-- The names in a path and the place where it begins. -/
def pathParts (path : String) : Place × List String :=
  let names := (splitAll (· == '/') path.toList).map String.ofList
  (if path.toList.head? = some '/' then ["/"] else [], names)

/-- Whether a name leaves a walk where it is. -/
def stays (name : String) : Bool := name.isEmpty || name == "."

/-- The place that is reached by going to `name`. -/
def Place.enter (here : Place) (name : String) : Place :=
  if name == ".." then
    if here = ["/"] then here
    else if here.all (· == "..") then here ++ [name]
    else here.dropLast
  else here ++ [name]

/-- A name has at most 255 bytes, none of them null. -/
def isFileName (name : String) : Bool := name.utf8ByteSize ≤ 255 && !name.toList.contains '\x00'

namespace FileTree

/-- What stands at a place. The working directory, those above it and the root are always there. -/
def node? (t : FileTree) (place : Place) : Option Node :=
  if place = ["/"] || place.all (· == "..") then some .directory else t.nodes.lookup place

def isDirectory (t : FileTree) (place : Place) : Bool :=
  match t.node? place with
  | some .directory => true
  | _ => false

/-- Puts a node at a place, instead of what stands there. -/
def put (t : FileTree) (place : Place) (node : Node) : FileTree :=
  ⟨(place, node) :: t.nodes.filter (·.1 != place)⟩

/-- The place that a walk from `here` ends at, which need not hold anything. -/
def walk? (t : FileTree) (here : Place) : List String → Option Place
  | [] => some here
  | name :: names =>
    if !t.isDirectory here then none
    else if stays name then t.walk? here names
    else t.walk? (here.enter name) names

def resolve? (t : FileTree) (path : String) : Option Place :=
  let (start, names) := pathParts path
  t.walk? start names

def read? (t : FileTree) (path : String) : Option ByteArray := do
  let .file content ← t.node? (← t.resolve? path) | none
  return content

/-- Makes every directory on a walk that is not there; whether that was possible. -/
def makeWay (t : FileTree) (here : Place) : List String → FileTree × Bool
  | [] => (t, true)
  | name :: names =>
    let there := here.enter name
    match t.node? there with
    | some .directory => t.makeWay there names
    | some (.file _) => (t, false)
    | none => if isFileName name then (t.put there .directory).makeWay there names else (t, false)

/-- Makes a directory and those above it. A path that ends in `.` cannot make its last directory. -/
def makeDirectories (t : FileTree) (path : String) : FileTree × Bool :=
  let (start, names) := pathParts path
  let way := names.filter (!stays ·)
  if (names.filter (!String.isEmpty ·)).getLast? = some "." then
    let (t, made) := t.makeWay start way.dropLast
    (t, made && (t.resolve? path).any t.isDirectory)
  else t.makeWay start way

/-- Writes a file into a directory that is there. -/
def write (t : FileTree) (path content : String) : FileTree × Bool :=
  match t.resolve? path with
  | some place =>
    if t.isDirectory place then (t, false) else (t.put place (.file content.toUTF8), true)
  | none => (t, false)

/-- The names in a directory, with what they stand for. -/
def list (t : FileTree) (path : String) : List (String × Node) :=
  match t.resolve? path with
  | some place =>
    if t.isDirectory place then
      t.nodes.filterMap fun (there, node) =>
        if there.dropLast = place then there.getLast?.map (·, node) else none
    else []
  | none => []

/-- The host whose files are a tree, with these environment variables. -/
def host (environment : List (String × String)) : Host (StateM FileTree) where
  read path := do return (← get).read? path
  makeDirectories path := modifyGet fun t => (t.makeDirectories path).swap
  write path content := modifyGet fun t => (t.write path content).swap
  lookup name := return environment.lookup name

end FileTree

end Flashcard.Tool
