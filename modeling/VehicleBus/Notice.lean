import VehicleBus.Encoding

/-!
# Notices

What the frame path reports about its own work, as data.  A notice has a level
and a source, by which a log is filtered and labelled, and one line of text.

`Step` is what handling a frame asks for: messages to be sent and notices to be
logged, in their order.
-/

namespace VehicleBus

/-- How much a line of a log matters, the least first. -/
inductive Level where
  | trace
  | debug
  | info
  | warn
  | error
deriving DecidableEq, Repr

namespace Level

def label : Level → String
  | trace => "TRACE"
  | debug => "DEBUG"
  | info => "INFO"
  | warn => "WARN"
  | error => "ERROR"

/-- The place of a level in the order of levels. -/
def rank : Level → Nat
  | trace => 0
  | debug => 1
  | info => 2
  | warn => 3
  | error => 4

end Level

inductive Notice where
  | ready (signals buses : Nat) (format : OutputFormat)
  | translating (key : Key)
  | ignored (key : Key)
  | noValue (name : String)
  | adding (key : Key)
  /-- The catalog had no room; only the first refusal is a warning. -/
  | refused (first : Bool) (key : Key) (capacity : Nat)
  | suppressed (key : Key)
  | serialized (bytes : Wire.Bytes)
  | dropped (format : OutputFormat) (fault : Fault)
  | writeFailed (format : OutputFormat) (fault : OutputFault)
deriving DecidableEq, Repr

namespace Notice

def level : Notice → Level
  | ready _ _ _ => .info
  | translating _ => .trace
  | ignored _ => .trace
  | noValue _ => .trace
  | adding _ => .debug
  | refused true _ _ => .warn
  | refused false _ _ => .debug
  | suppressed _ => .trace
  | serialized _ => .trace
  | dropped _ _ => .warn
  | writeFailed _ _ => .warn

/-- The part of the frame path that a notice comes from. -/
def source : Notice → String
  | ready _ _ _ => "can_translate::translator"
  | translating _ => "can_translate::translator"
  | ignored _ => "can_translate::translator"
  | noValue _ => "can_translate::translator"
  | adding _ => "can_translate::registry"
  | refused _ _ _ => "can_translate::registry"
  | suppressed _ => "can_translate::registry"
  | serialized _ => "can_translate::pipeline"
  | dropped _ _ => "can_translate::pipeline"
  | writeFailed _ _ => "can_translate::pipeline"

def text : Notice → String
  | ready signals buses format =>
    s!"Translator ready: {signals} signals, {buses} buses, {format.name} output"
  | translating key => "Translating " ++ key.describe
  | ignored key => s!"No definition for {key.describe}, ignored"
  | noValue name => s!"No value for signal '{name}', suppressed"
  | adding key => "Adding new message definition for message " ++ key.describe
  | refused _ key capacity => (Fault.catalogFull key capacity).message
  | suppressed key => "Suppressed raw message " ++ key.describe
  | serialized bytes => "Serialized to: " ++ Text.hexDump bytes
  | dropped format fault => s!"Dropping {format.name} message: {fault.message}"
  | writeFailed format fault => s!"Failed to write {format.name} message: {fault.message}"

end Notice

/-- One thing that handling a frame asks for. -/
inductive Step where
  | send (message : Message)
  | note (notice : Notice)
deriving DecidableEq, Repr

namespace Step

/-- The messages among some steps, in order. -/
def messages (steps : List Step) : List Message :=
  steps.filterMap fun
    | send message => some message
    | note _ => none

/-- The notices among some steps, in order. -/
def notices (steps : List Step) : List Notice :=
  steps.filterMap fun
    | send _ => none
    | note notice => some notice

end Step

end VehicleBus
