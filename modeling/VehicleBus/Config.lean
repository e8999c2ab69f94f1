import VehicleBus.Catalog
import VehicleBus.Signal.Channel

/-!
# Vehicle configurations

A configuration names the buses of a vehicle, the messages whose signals are
decoded, and the messages that are forwarded undecoded.  It is data only: what
is wrong with one is said in `VehicleBus.Config.Check`, and what it builds in
`VehicleBus.Translator`.
-/

namespace VehicleBus.Config

/-- A bus, and whether frames without signals are forwarded from it. -/
structure Bus where
  address : UInt8
  rawPassthrough : Bool := false
deriving DecidableEq, Repr, Inhabited

/-- The definition of one signal of a message. -/
structure SignalDef where
  name : String
  position : UInt8
  size : UInt8
  factor : Binary64 := Binary64.one
  offset : Binary64 := Binary64.zero
  /-- Greatest rate of reports, zero for every frame. -/
  frequency : Binary32 := Binary32.zero
  forceChanged : Bool := false
  sendSame : Bool := true
  handler : HandlerKind := .passthrough
  states : List SignalState := []
deriving DecidableEq, Repr, Inhabited

/-- A message whose signals are decoded. -/
structure MessageDef where
  key : Key
  signals : List SignalDef := []
deriving DecidableEq, Repr, Inhabited

/-- A message that is forwarded undecoded. -/
structure RawMessageDef where
  key : Key
  frequency : Binary32 := Binary32.zero
  forceChanged : Bool := false
deriving DecidableEq, Repr, Inhabited

structure Vehicle where
  format : OutputFormat := .json
  /-- Greatest number of forwarded messages that are known at a time. -/
  capacity : Nat := 64
  /-- Rate limit of forwarded messages that no definition names. -/
  rawFrequency : Binary32 := Binary32.zero
  buses : List Bus := []
  messages : List MessageDef := []
  rawMessages : List RawMessageDef := []
deriving DecidableEq, Repr, Inhabited

/-- The row of the signal table that a definition stands for. -/
def SignalDef.channel (definition : SignalDef) (key : Key) : Channel where
  signal := {
    name := definition.name
    key := key
    position := definition.position
    size := definition.size
    factor := definition.factor
    offset := definition.offset
    clock := .ofFrequency definition.frequency
    forceChanged := definition.forceChanged
    sendSame := definition.sendSame
    states := definition.states }
  handler := definition.handler.handler

/-- The catalog entry that a definition stands for. -/
def RawMessageDef.definition (raw : RawMessageDef) : Catalog.Definition where
  key := raw.key
  clock := .ofFrequency raw.frequency
  forceChanged := raw.forceChanged

namespace Vehicle

/-- The first bus with a given address. -/
def bus? (vehicle : Vehicle) (address : UInt8) : Option Bus :=
  vehicle.buses.find? (·.address == address)

/-- The rows of the signal table, in the order of the definitions. -/
def channels (vehicle : Vehicle) : List Channel :=
  vehicle.messages.flatMap fun message => message.signals.map (·.channel message.key)

end Vehicle

end VehicleBus.Config
