/-!
# The options of the tool

`Invocation.parse` reads the arguments of a run. Every option takes a value, in the same argument
after `=` or in the next one. A value is not empty, and it starts with `-` only if it is nothing
else. The settings and the directory for the cards may also be given by environment variables.

An option is taken up when the next one is met or the arguments end, so an unknown argument is
reported before a fault of the option in front of it.
-/

namespace Flashcard.Tool

structure Options where
  template : String
  note : Option String
  settings : Option String
  out : Option String
deriving DecidableEq, Repr

/-- What a run is asked to do. -/
inductive Invocation where
  | render (options : Options)
  | help
  | version
deriving DecidableEq, Repr

inductive UsageError where
  | unknownArgument
  /-- An option without a value or with an empty one. -/
  | invalidValue
  /-- An option that is given twice. -/
  | repeatedOption
  /-- A flag with a value. -/
  | unexpectedValue
  | missingTemplate
deriving DecidableEq, Repr

def UsageError.message : UsageError → String
  | .unknownArgument => "unexpected argument found"
  | .invalidValue => "a value is required for an option but none was supplied"
  | .repeatedOption => "an option cannot be used multiple times"
  | .unexpectedValue => "unexpected value for a flag found; no more were expected"
  | .missingTemplate => "the required option --template <TEMPLATE> was not provided"

inductive OptionName where
  | template
  | note
  | settings
  | out
deriving DecidableEq, Repr

namespace OptionName

def spelling : OptionName → String
  | template => "template"
  | note => "note"
  | settings => "settings"
  | out => "out"

/-- The environment variable that gives an option its value where the arguments do not. -/
def variableName? : OptionName → Option String
  | settings => some "CARD_PREVIEW_SETTINGS"
  | out => some "CARD_PREVIEW_OUT"
  | _ => none

def ofSpelling? (s : String) : Option OptionName :=
  [template, note, settings, out].find? (·.spelling == s)

end OptionName

/-- What has been read of the arguments. -/
structure OptionsDraft where
  given : List (OptionName × String) := []
  /-- The option that was met last, with its value if that has been met. -/
  pending : Option (OptionName × Option String) := none

namespace OptionsDraft

/-- Takes up an option. -/
def give (d : OptionsDraft) (name : OptionName) : Option String → Except UsageError OptionsDraft
  | none => .error .invalidValue
  | some value =>
    if (d.given.lookup name).isSome then .error .repeatedOption
    else if value.isEmpty then .error .invalidValue
    else .ok { d with given := (name, value) :: d.given }

/-- Takes up the option that was met last. -/
def settle (d : OptionsDraft) : Except UsageError OptionsDraft :=
  match d.pending with
  | none => .ok d
  | some (name, value) => { d with pending := none }.give name value

/-- Takes the value of an option from the environment, unless it is given. -/
def giveFrom (environment : List (String × String)) (d : OptionsDraft) (name : OptionName) :
    Except UsageError OptionsDraft :=
  match d.given.lookup name, name.variableName?.bind (environment.lookup ·) with
  | none, some value => d.give name (some value)
  | _, _ => .ok d

/-- Ends the arguments. -/
def finish (d : OptionsDraft) (environment : List (String × String)) :
    Except UsageError Invocation := do
  let d ← d.settle
  let d ← d.giveFrom environment .settings
  let d ← d.giveFrom environment .out
  match d.given.lookup .template with
  | some template =>
    return .render ⟨template, d.given.lookup .note, d.given.lookup .settings, d.given.lookup .out⟩
  | none => throw .missingTemplate

end OptionsDraft

/-- An argument by its form. -/
inductive Argument where
  /-- Ends the options. -/
  | separator
  | long (name : String) (value : Option String)
  | short (letter : Char)
  | plain (text : String)
deriving DecidableEq, Repr

/-- The text before the first `=` and, if there is one, the text after it. -/
def splitAssignment (s : List Char) : String × Option String :=
  match s.dropWhile (· != '=') with
  | _ :: value => (String.ofList (s.takeWhile (· != '=')), some (String.ofList value))
  | [] => (String.ofList s, none)

def Argument.of (text : String) : Argument :=
  match text.toList with
  | ['-', '-'] => .separator
  | '-' :: '-' :: s =>
    let (name, value) := splitAssignment s
    .long name value
  | '-' :: letter :: _ => .short letter
  | _ => .plain text

/-- What a flag asks for. -/
def Argument.flag? : Argument → Option Invocation
  | .long "help" _ | .short 'h' => some .help
  | .long "version" _ | .short 'V' => some .version
  | _ => none

namespace Invocation

/-- Reads on after the arguments that are in the draft. -/
def parseFrom (environment : List (String × String)) (d : OptionsDraft) :
    List String → Except UsageError Invocation
  | [] => d.finish environment
  | text :: rest =>
    let argument := Argument.of text
    match argument.flag?, argument with
    | some _, .long _ (some _) => .error .unexpectedValue
    | some invocation, _ => do
      let _ ← d.settle
      return invocation
    | none, .separator => if rest.isEmpty then d.finish environment else .error .unknownArgument
    | none, .short _ => .error .unknownArgument
    | none, .plain value =>
      match d.pending with
      | some (name, none) =>
        parseFrom environment { d with pending := some (name, some value) } rest
      | _ => .error .unknownArgument
    | none, .long spelling value =>
      match OptionName.ofSpelling? spelling with
      | none => .error .unknownArgument
      | some name => do
        let d ← d.settle
        match value with
        | some value => parseFrom environment (← d.give name (some value)) rest
        | none => parseFrom environment { d with pending := some (name, none) } rest

/-- Reads the arguments of a run. -/
def parse (environment : List (String × String)) (arguments : List String) :
    Except UsageError Invocation :=
  parseFrom environment {} arguments

end Invocation

end Flashcard.Tool
