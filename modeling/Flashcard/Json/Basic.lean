/-!
# JSON values

A value is what a JSON text holds, as far as it holds anything. A text may break off or go wrong at
any place, and what stands before that place is a value all the same: the place itself is a `broken`
part, or the end of a list that is `cut`. So reading a text never fails, and whoever takes a value
apart meets the first fault on the way.

A value may be passed over as well as read. `skipFault?` is the first fault that even a reader who
passes over a value meets, and `readFault?` the first that one who keeps all of it meets.
-/

namespace Flashcard.Json

/-- What is wrong with a text. -/
inductive Fault where
  /-- It ends too early. -/
  | truncated
  /-- It is not JSON. -/
  | malformed
  /-- It holds another value than was asked for. -/
  | mismatched
deriving DecidableEq, Repr

mutual

inductive Value where
  | null
  | bool (b : Bool)
  /-- A number, as written. -/
  | number (literal : String)
  | string (s : String)
  | array (items : Items)
  | object (members : Members)
  /-- A string that breaks off or spells no text, or the place of a missing value. The faults are
  those of reading and of passing over. -/
  | broken (read : Fault) (skipped : Option Fault)
  /-- A keyword or a number that breaks off or has no value. -/
  | brokenWord (read : Fault) (skipped : Option Fault)

inductive Items where
  | close
  | cut (fault : Fault)
  | item (value : Value) (rest : Items)

/-- The members of an object. A key is a value, since anything may stand in its place. -/
inductive Members where
  | close
  | cut (fault : Fault)
  | member (key value : Value) (rest : Members)

end

/-- A place where nothing can be read on. -/
def Value.fault (f : Fault) : Value := .broken f (some f)

def Value.ofNat (n : Nat) : Value := .number (toString n)

def Items.ofList : List Value → Items
  | [] => .close
  | v :: vs => .item v (ofList vs)

def Members.ofList : List (String × Value) → Members
  | [] => .close
  | (key, v) :: ms => .member (.string key) v (ofList ms)

def Value.ofItems (vs : List Value) : Value := .array (.ofList vs)

def Value.ofMembers (ms : List (String × Value)) : Value := .object (.ofList ms)

/-- The fault of passing over a key. Only a string can be one. -/
def Value.keySkipFault? : Value → Option Fault
  | .string _ => none
  | .broken _ skipped => skipped
  | _ => some .malformed

/-- The fault of reading a key. -/
def Value.keyReadFault? : Value → Option Fault
  | .string _ => none
  | .broken read _ => some read
  | _ => some .malformed

mutual

/-- The first fault in a value that is passed over. -/
def Value.skipFault? : Value → Option Fault
  | .broken _ skipped => skipped
  | .brokenWord _ skipped => skipped
  | .array items => items.skipFault?
  | .object members => members.skipFault?
  | _ => none

def Items.skipFault? : Items → Option Fault
  | .close => none
  | .cut f => some f
  | .item v rest => v.skipFault?.or rest.skipFault?

def Members.skipFault? : Members → Option Fault
  | .close => none
  | .cut f => some f
  | .member key v rest => key.keySkipFault?.or (v.skipFault?.or rest.skipFault?)

end

mutual

/-- The first fault in a value that is kept, where arrays and objects may stand `room` deep. -/
def Value.readFault? (room : Nat) : Value → Option Fault
  | .broken read _ => some read
  | .brokenWord read _ => some read
  | .array items => if room = 0 then some .malformed else items.readFault? (room - 1)
  | .object members => if room = 0 then some .malformed else members.readFault? (room - 1)
  | _ => none

def Items.readFault? (room : Nat) : Items → Option Fault
  | .close => none
  | .cut f => some f
  | .item v rest => (v.readFault? room).or (rest.readFault? room)

def Members.readFault? (room : Nat) : Members → Option Fault
  | .close => none
  | .cut f => some f
  | .member key v rest => key.keyReadFault?.or ((v.readFault? room).or (rest.readFault? room))

end

end Flashcard.Json
