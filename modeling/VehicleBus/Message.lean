import VehicleBus.Fault

/-!
# Vehicle messages

A message is what leaves the library: a named value, a named value qualified by
an event, or a frame forwarded undecoded.  Texts in messages are limited to 100
bytes each, which `Message.overlong?` checks before anything is encoded.
-/

namespace VehicleBus

/-- Qualifier of a message. -/
inductive Event where
  | number (value : Binary64)
  | flag (value : Bool)
  | text (value : String)
deriving DecidableEq, Repr, Inhabited

namespace Event

/-- The text of an event in a sentence. -/
def describe : Event → String
  | number value => value.text
  | flag value => if value then "true" else "false"
  | text value => value

end Event

inductive Message where
  | numeric (name : String) (value : Binary64)
  | boolean (name : String) (value : Bool)
  | text (name value : String)
  | evented (name value : String) (event : Event)
  | raw (key : Key) (data : Payload)
deriving DecidableEq, Repr, Inhabited

/-- Greatest length of a name in bytes. -/
def nameLimit : Nat := 100

/-- Greatest length of a text value or text event in bytes. -/
def valueLimit : Nat := 100

/-- The fault of a text that is longer than its limit. -/
def overlong? (kind : LimitedText) (limit : Nat) (text : String) : Option Fault :=
  if limit < text.utf8ByteSize then some (.tooLong kind text.utf8ByteSize limit) else none

namespace Message

/-- The name of a message; forwarded frames have none. -/
def name? : Message → Option String
  | numeric name _ => some name
  | boolean name _ => some name
  | text name _ => some name
  | evented name _ _ => some name
  | raw _ _ => none

/-- Equality of messages that compares numbers as numbers: a non-number differs
from itself, and the two zeros are equal. -/
def same : Message → Message → Bool
  | numeric name value, numeric name' value' => name == name' && value.same value'
  | evented name value (.number event), evented name' value' (.number event') =>
    name == name' && value == value' && event.same event'
  | a, b => decide (a = b)

/-- The first text of a message that is too long, looked for in the order name,
value, event. -/
def overlong? : Message → Option Fault
  | numeric name _ => VehicleBus.overlong? .name nameLimit name
  | boolean name _ => VehicleBus.overlong? .name nameLimit name
  | text name value =>
    (VehicleBus.overlong? .name nameLimit name).or
      (VehicleBus.overlong? .value valueLimit value)
  | evented name value event =>
    ((VehicleBus.overlong? .name nameLimit name).or
      (VehicleBus.overlong? .value valueLimit value)).or
      (match event with
      | .text event => VehicleBus.overlong? .event valueLimit event
      | _ => none)
  | raw _ _ => none

end Message

end VehicleBus
