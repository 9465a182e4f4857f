import Flashcard.Json.Reader

/-!
# Decoding JSON

A `Decoder` takes a value apart. It goes through the value in text order and reports the first
fault, where a value of the wrong shape is a fault too.

A record is written as an object, with its members in any order and members of other names among
them, or as an array of its fields in order. `record` decodes both.
-/

namespace Flashcard.Json

abbrev Decoder (α : Type) := Value → Except Fault α

/-- Decodes a whole text. Only white space may follow the value. -/
def decodeText {α : Type} (decoder : Decoder α) (text : String) : Except Fault α := do
  let (value, rest) := readText text.toList
  let a ← decoder value
  if (skipSpace rest).isEmpty then return a else throw .malformed

/-- The fault of a value where another kind of value is asked for. -/
def Value.mismatch : Value → Fault
  | .broken read _ => read
  | .brokenWord read _ => read
  | _ => .mismatched

def text : Decoder String
  | .string s => .ok s
  | v => .error v.mismatch

/-- Decodes a text of a form of its own. -/
def parsed {α : Type} (parse? : String → Option α) : Decoder α := fun v => do
  match parse? (← text v) with
  | some a => return a
  | none => throw .mismatched

/-- Decodes `null` as nothing. -/
def optional {α : Type} (decoder : Decoder α) : Decoder (Option α)
  | .null => .ok none
  | v => some <$> decoder v

def Items.decode {α : Type} (decoder : Decoder α) : Items → Except Fault (List α)
  | .close => .ok []
  | .cut f => .error f
  | .item v rest => do
    let a ← decoder v
    return a :: (← rest.decode decoder)

def list {α : Type} (decoder : Decoder α) : Decoder (List α)
  | .array items => items.decode decoder
  | v => .error v.mismatch

/-- The item that must come next, and the items after it. -/
def Items.next {α : Type} (decoder : Decoder α) : Items → Except Fault (α × Items)
  | .close => .error .mismatched
  | .cut f => .error f
  | .item v rest => do return (← decoder v, rest)

/-- Ends an array where no item may follow; `excess` is the fault of one that does. -/
def Items.finish (excess : Fault) : Items → Except Fault Unit
  | .close => .ok ()
  | .cut f => .error f
  | .item _ _ => .error excess

/-- Decodes an array of two. -/
def pair {α β : Type} (first : Decoder α) (second : Decoder β) : Decoder (α × β)
  | .array items => do
    let (a, items) ← items.next first
    let (b, items) ← items.next second
    items.finish .malformed
    return (a, b)
  | v => .error v.mismatch

/-- Whether a record may be written without a field. -/
inductive Presence where
  | required
  /-- Objects may leave it out. -/
  | optional
  /-- Objects may leave it out, and arrays may end before it. -/
  | trailing
deriving DecidableEq

/-- A field of a record `ρ`. -/
structure RecordField (ρ : Type) where
  name : String
  presence : Presence
  /-- Puts the decoded value into the record. -/
  store : Value → ρ → Except Fault ρ

/-- A field that holds the value of one decoder. -/
def RecordField.of {ρ α : Type} (name : String) (presence : Presence) (decoder : Decoder α)
    (put : α → ρ → ρ) : RecordField ρ where
  name := name
  presence := presence
  store v r := do return put (← decoder v) r

/-- Decodes members into `r`, where `seen` holds the names of the fields that have been met. No
field may be met twice. -/
def Members.decode {ρ : Type} (fields : List (RecordField ρ)) (seen : List String) (r : ρ) :
    Members → Except Fault ρ
  | .close =>
    if fields.all fun field => field.presence != .required || seen.contains field.name then .ok r
    else .error .mismatched
  | .cut f => .error f
  | .member (.string name) v rest =>
    match fields.find? (·.name == name) with
    | some field =>
      if seen.contains name then .error .mismatched
      else do rest.decode fields (name :: seen) (← field.store v r)
    | none =>
      match v.skipFault? with
      | some f => .error f
      | none => rest.decode fields seen r
  | .member key _ _ => .error (key.keyReadFault?.getD .malformed)

/-- Decodes items into `r`, a field for each. -/
def Items.decodeFields {ρ : Type} (excess : Fault) (fields : List (RecordField ρ)) (r : ρ)
    (items : Items) : Except Fault ρ :=
  match fields, items with
  | [], items => do
    items.finish excess
    return r
  | _ :: _, .cut f => .error f
  | field :: fields, .close =>
    if field.presence = .trailing then Items.close.decodeFields excess fields r
    else .error .mismatched
  | field :: fields, .item v rest => do
    rest.decodeFields excess fields (← field.store v r)

/-- Decodes a record, where `blank` holds the values of fields that are left out and `excess` is the
fault of an array that is too long. -/
def record {ρ : Type} (excess : Fault) (fields : List (RecordField ρ)) (blank : ρ) : Decoder ρ
  | .object members => members.decode fields [] blank
  | .array items => items.decodeFields excess fields blank
  | v => .error v.mismatch

end Flashcard.Json
