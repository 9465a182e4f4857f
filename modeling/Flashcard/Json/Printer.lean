import Flashcard.Json.Basic
import Flashcard.Text.Hexadecimal

/-!
# Writing JSON

`Value.print` writes a value without white space. A value that came from a text with a fault is
written as far as it goes.
-/

namespace Flashcard.Json

/-- Escapes a character that cannot stand in a string as it is. -/
def escapeChar (c : Char) : List Char :=
  match c with
  | '"' => ['\\', '"']
  | '\\' => ['\\', '\\']
  | '\x08' => ['\\', 'b']
  | '\x0c' => ['\\', 'f']
  | '\n' => ['\\', 'n']
  | '\r' => ['\\', 'r']
  | '\t' => ['\\', 't']
  | c =>
    if c < ' ' then
      ['\\', 'u', '0', '0', if c < '\x10' then '0' else '1', hexDigit (.ofNat 16 c.toNat)]
    else [c]

def printString (s : String) : List Char := '"' :: s.toList.flatMap escapeChar ++ ['"']

mutual

def Value.print : Value → List Char
  | .null => "null".toList
  | .bool true => "true".toList
  | .bool false => "false".toList
  | .number literal => literal.toList
  | .string s => printString s
  | .array items => '[' :: items.print
  | .object members => '{' :: members.print
  | .broken _ _ => []
  | .brokenWord _ _ => []

/-- Writes the items and the closing bracket. -/
def Items.print : Items → List Char
  | .close => [']']
  | .cut _ => []
  | .item v .close => v.print ++ [']']
  | .item v rest => v.print ++ ',' :: rest.print

/-- Writes the members and the closing brace. -/
def Members.print : Members → List Char
  | .close => ['}']
  | .cut _ => []
  | .member key v .close => key.print ++ ':' :: v.print ++ ['}']
  | .member key v rest => key.print ++ ':' :: v.print ++ ',' :: rest.print

end

end Flashcard.Json
