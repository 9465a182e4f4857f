import Flashcard.Json.Record
import Flashcard.Settings
import Flashcard.Template

/-!
# Reading stored data

Decoders for templates, notes and settings. Records may be written as objects or as arrays of
their fields. The layout of a design is marked with its kind, which may stand anywhere among the
members; so the whole layout is kept before it is decoded, and it may not be nested too deep.
-/

namespace Flashcard

open Json

/-- The value of a numeral that is all digits. -/
def natural? (literal : String) : Option Nat :=
  if literal.toList.all isDecimalDigit then some (decimalValue literal.toList) else none

def Ordinal.decode : Decoder Ordinal
  | .number literal =>
    match natural? literal >>= ofNat? with
    | some ord => .ok ord
    | none => .error .mismatched
  | v => .error v.mismatch

def FieldValues.decode : Decoder FieldValues := list (pair text text)

def Variant.fields : List (RecordField Variant) :=
  [.of "id" .required Ordinal.decode fun id v => { v with id := id },
    .of "name" .required text fun name v => { v with name := name },
    .of "front" .required text fun front v => { v with front := front },
    .of "back" .required text fun back v => { v with back := back },
    .of "short_front" .trailing (optional text) fun front v => { v with shortFront := front },
    .of "short_back" .trailing (optional text) fun back v => { v with shortBack := back }]

def Variant.blank : Variant := ⟨.first, "", "", "", none, none⟩

/-- Decodes a variant; `excess` is the fault of an array that is too long. -/
def Variant.decode (excess : Fault) : Decoder Variant := record excess Variant.fields Variant.blank

def Kind.ofName? (name : String) : Option Kind :=
  [Kind.standard, .cloze].find? fun kind => kind.name == name

def Kind.decodeName : Decoder Kind := parsed Kind.ofName?

def nothing : Decoder Unit
  | .null => .ok ()
  | v => .error v.mismatch

/-- Decodes a kind from its name, or from an object with the name as its only key and nothing as its
value. -/
def Kind.decode : Decoder Kind
  | .string name => Kind.decodeName (.string name)
  | .broken read _ => .error read
  | .object (.member key value rest) => do
    let kind ← Kind.decodeName key
    nothing value
    match rest with
    | .close => return kind
    | .cut f => throw f
    | .member _ _ _ => throw .malformed
  | .object (.cut f) => .error f
  | _ => .error .malformed

namespace Layout

/-- How many arrays and objects may stand inside each other. -/
def depthLimit : Nat := 127

/-- The kind among the members, where `found` is the one met before. All members are kept. -/
def decodeTag (room : Nat) (found : Option Kind) : Members → Except Fault Kind
  | .close =>
    match found with
    | some kind => .ok kind
    | none => .error .mismatched
  | .cut f => .error f
  | .member key value rest =>
    match key with
    | .string "tag" =>
      if found.isSome then .error .mismatched
      else do decodeTag room (some (← Kind.decodeName value)) rest
    | key =>
      match key.keyReadFault?.or (value.readFault? room) with
      | some f => .error f
      | none => decodeTag room found rest

/-- Decodes what is written beside the kind. -/
def decodeContent : Kind → Decoder Layout
  | .standard =>
    record .mismatched
      [.of "templates" .required (list (Variant.decode .mismatched)) fun vs _ => .standard vs]
      (.standard [])
  | .cloze =>
    record .mismatched
      [.of "template" .required (Variant.decode .mismatched) fun v _ => .cloze v]
      (.standard [])

/-- Decodes a layout in which `room` more levels may stand. -/
def decodeWithin (room : Nat) : Decoder Layout
  | .object members => do
    let kind ← decodeTag room none members
    decodeContent kind (.object members)
  | .array items => do
    let (kind, items) ← items.next Kind.decodeName
    match items.readFault? room with
    | some f => throw f
    | none => decodeContent kind (.array items)
  | v => .error v.mismatch

/-- Decodes a layout that stands alone. -/
def decode : Decoder Layout := decodeWithin (depthLimit - 1)

end Layout

def decodeFieldName : Decoder String :=
  record .malformed [.of "name" .required text fun name _ => name] ""

def Template.fields : List (RecordField Template) :=
  [.of "id" .required (parsed Uuid.parse?) fun id t => { t with id := id },
    .of "name" .required text fun name t => { t with name := name },
    .of "created" .required (parsed Timestamp.parse?) fun time t => { t with created := time },
    .of "updated" .required (parsed Timestamp.parse?) fun time t => { t with updated := time },
    .of "fields" .required (list decodeFieldName) fun names t =>
      { t with design := { t.design with fields := names } },
    .of "template_type" .required (Layout.decodeWithin (Layout.depthLimit - 2)) fun layout t =>
      { t with design := { t.design with layout := layout } },
    .of "css" .trailing text fun css t => { t with design := { t.design with css := css } }]

def Template.blank : Template where
  id := .replicate 32 ⟨0, Nat.zero_lt_succ _⟩
  name := ""
  created := .epoch
  updated := .epoch
  design := ⟨[], .standard [], ""⟩

def Template.decode : Decoder Template := record .malformed Template.fields Template.blank

def Settings.decode : Decoder Settings :=
  record .malformed
    [.of "cloze_filler" .trailing text fun filler s => { s with clozeFiller := filler },
      .of "front_color" .trailing text fun color s => { s with frontColor := color },
      .of "back_color" .trailing text fun color s => { s with backColor := color }]
    {}

def SettingsPatch.decode : Decoder SettingsPatch :=
  record .malformed
    [.of "cloze_filler" .optional (optional text) fun filler p => { p with clozeFiller := filler },
      .of "front_color" .optional (optional text) fun color p => { p with frontColor := color },
      .of "back_color" .optional (optional text) fun color p => { p with backColor := color }]
    {}

end Flashcard
