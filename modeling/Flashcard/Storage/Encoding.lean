import Flashcard.Json.Printer
import Flashcard.Settings
import Flashcard.Template

/-!
# Writing stored data

The JSON values that templates, notes and settings are kept as. What is absent is left out.
-/

namespace Flashcard

open Json (Value)

def Ordinal.encode (ord : Ordinal) : Value := .ofNat ord.toNat

def FieldValues.encode (fields : FieldValues) : Value :=
  .ofItems (fields.map fun (name, value) => .ofItems [.string name, .string value])

/-- A member for what is there, and none for what is absent. -/
def optionalMember (name : String) : Option String → List (String × Value)
  | some s => [(name, .string s)]
  | none => []

def Variant.encode (v : Variant) : Value :=
  .ofMembers
    ([("id", v.id.encode), ("name", .string v.name), ("front", .string v.front),
      ("back", .string v.back)] ++
      optionalMember "short_front" v.shortFront ++ optionalMember "short_back" v.shortBack)

def Kind.encode (kind : Kind) : Value := .string kind.name

def Layout.encode (layout : Layout) : Value :=
  .ofMembers
    [("tag", layout.kind.encode),
      match layout with
      | .standard variants => ("templates", .ofItems (variants.map Variant.encode))
      | .cloze shared => ("template", shared.encode)]

def encodeFieldName (name : String) : Value := .ofMembers [("name", .string name)]

def Template.encode (t : Template) : Value :=
  .ofMembers
    [("id", .string t.id.print), ("name", .string t.name), ("created", .string t.created.print),
      ("updated", .string t.updated.print),
      ("fields", .ofItems (t.design.fields.map encodeFieldName)),
      ("template_type", t.design.layout.encode), ("css", .string t.design.css)]

def Settings.encode (s : Settings) : Value :=
  .ofMembers
    [("cloze_filler", .string s.clozeFiller), ("front_color", .string s.frontColor),
      ("back_color", .string s.backColor)]

def SettingsPatch.encode (p : SettingsPatch) : Value :=
  .ofMembers
    (optionalMember "cloze_filler" p.clozeFiller ++ optionalMember "front_color" p.frontColor ++
      optionalMember "back_color" p.backColor)

end Flashcard
