import VehicleBus.Signal
import VehicleBus.Message

/-!
# Handlers

A handler turns a decoded value into the one that is reported, and may withdraw
the decision to report it.  Four strategies are built in; any other is a
function of the signal, the whole signal table, the value and the decision so
far.
-/

namespace VehicleBus

/-- What a handler makes of a value; its kind selects the kind of message. -/
inductive Translated where
  | numeric (value : Binary64)
  | boolean (value : Bool)
  /-- A text, or none if there is nothing to report. -/
  | text (value : Option String)
deriving DecidableEq, Repr

namespace Translated

/-- The message that reports a translated value under a name. -/
def toMessage? (name : String) : Translated → Option Message
  | numeric value => some (.numeric name value)
  | boolean value => some (.boolean name value)
  | text (some value) => some (.text name value)
  | text none => none

end Translated

/-- A strategy supplied by the program that uses the library.  It is taken to be a
function of what it is shown: the signal and the table of signals, both without
their handlers, the value, and the decision so far.  It keeps no state of its own,
so it answers alike whenever it is shown the same. -/
abbrev Custom (α : Type) := Signal → List Signal → Binary64 → Bool → α × Bool

inductive Handler where
  /-- Report the value as it is. -/
  | passthrough
  /-- Report whether the value differs from zero. -/
  | boolean
  /-- Report nothing. -/
  | ignore
  /-- Report the name of the state whose code the value is. -/
  | state
  | customNumeric (strategy : Custom Binary64)
  | customBoolean (strategy : Custom Bool)
  | customText (strategy : Custom (Option String))

namespace Handler

def isState : Handler → Bool
  | state => true
  | _ => false

/-- The name of a handler in a listing. -/
def describe : Handler → String
  | passthrough => "Passthrough"
  | boolean => "Boolean"
  | ignore => "Ignore"
  | state => "State"
  | customNumeric _ => "CustomNumeric(..)"
  | customBoolean _ => "CustomBoolean(..)"
  | customText _ => "CustomString(..)"

/-- Apply a handler: the translated value and the decision whether to send. -/
def apply (handler : Handler) (signal : Signal) (table : List Signal) (value : Binary64)
    (send : Bool) : Translated × Bool :=
  match handler with
  | passthrough => (.numeric value, send)
  | boolean => (.boolean (!value.same Binary64.zero), send)
  | ignore => (.numeric value, false)
  | state =>
    match signal.stateWithCode? value with
    | some found => (.text (some found.name), send)
    | none => (.text none, false)
  | customNumeric strategy =>
    let (result, send) := strategy signal table value send
    (.numeric result, send)
  | customBoolean strategy =>
    let (result, send) := strategy signal table value send
    (.boolean result, send)
  | customText strategy =>
    let (result, send) := strategy signal table value send
    (.text result, send)

end Handler

/-- The handlers that a vehicle configuration can name. -/
inductive HandlerKind where
  | passthrough
  | boolean
  | ignore
  | state
deriving DecidableEq, Repr, Inhabited

namespace HandlerKind

def name : HandlerKind → String
  | passthrough => "passthrough"
  | boolean => "boolean"
  | ignore => "ignore"
  | state => "state"

def all : List HandlerKind := [passthrough, boolean, ignore, state]

def ofName? (name : String) : Option HandlerKind := all.find? (·.name == name)

def handler : HandlerKind → Handler
  | passthrough => .passthrough
  | boolean => .boolean
  | ignore => .ignore
  | state => .state

end HandlerKind

end VehicleBus
