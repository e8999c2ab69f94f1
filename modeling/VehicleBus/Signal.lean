import VehicleBus.Frame

/-!
# Signals

A signal is a scaled bit field of the frames with one key, together with what
is remembered of it: its last value, whether a value was ever accepted, and its
sampling clock.  How a value is presented is not part of the signal; that is its
handler (`VehicleBus.Signal.Handler`).
-/

namespace VehicleBus

/-- A name for one numeric code of a signal. -/
structure SignalState where
  code : Int32
  name : String
deriving DecidableEq, Repr, Inhabited

structure Signal where
  name : String
  key : Key := ⟨0, 0⟩
  /-- First bit of the field, counted from the most significant one. -/
  position : UInt8
  /-- Width of the field in bits. -/
  size : UInt8
  factor : Binary64 := Binary64.one
  offset : Binary64 := Binary64.zero
  clock : Sampling.Clock := {}
  /-- Report a changed value at once, whatever the clock says. -/
  forceChanged : Bool := false
  /-- Report an unchanged value when the clock ticks. -/
  sendSame : Bool := true
  states : List SignalState := []
  /-- The value decoded last, reported or not. -/
  lastValue : Binary64 := Binary64.zero
  /-- Has a value been accepted yet? -/
  received : Bool := false
deriving DecidableEq, Repr, Inhabited

namespace Signal

/-- The value of a signal in a payload: the field as an unsigned number, scaled
and then shifted, each step rounded. -/
def decode (signal : Signal) (data : Payload) : Binary64 :=
  Binary64.ofNat (data.bitField signal.position.toNat signal.size.toNat) * signal.factor +
    signal.offset

/-- The first signal of a table with a given name. -/
def find? (name : String) (table : List Signal) : Option Signal :=
  table.find? (·.name == name)

/-- The first state whose code is exactly a value. -/
def stateWithCode? (signal : Signal) (value : Binary64) : Option SignalState :=
  signal.states.find? fun state => (Binary64.ofInt state.code.toInt).same value

/-- The first state with a given name. -/
def stateNamed? (signal : Signal) (name : String) : Option SignalState :=
  signal.states.find? (·.name == name)

end Signal

end VehicleBus
