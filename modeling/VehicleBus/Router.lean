import VehicleBus.Catalog
import VehicleBus.Config.Check
import VehicleBus.Sampling.Gate

/-!
# The router

The router decides what becomes of a frame: its signals are decoded, or it is
forwarded undecoded, or it is ignored.  It holds the signal table, the buses and
the catalog, and asks for messages and notices as steps; encoding and output are
not its concern, so nothing here depends on the output format.

The signal table is indexed by key: for each key with signals the index holds
their places in the table, in increasing order.
-/

namespace VehicleBus

/-- Places in the signal table by key. -/
abbrev SignalIndex := List (Key × List Nat)

namespace SignalIndex

/-- The places of the signals of a key, if it has any. -/
def find? (index : SignalIndex) (key : Key) : Option (List Nat) := index.lookup key

/-- Add a place behind the others of its key. -/
def insert (key : Key) (place : Nat) : SignalIndex → SignalIndex
  | [] => [(key, [place])]
  | (other, places) :: rest =>
    if other = key then (other, places ++ [place]) :: rest
    else (other, places) :: insert key place rest

end SignalIndex

/-- Counts of frames by what became of them. -/
structure FrameCounts where
  processed : Nat := 0
  translated : Nat := 0
  passedThrough : Nat := 0
  ignored : Nat := 0
deriving DecidableEq, Repr, Inhabited

structure Router where
  channels : List Channel := []
  index : SignalIndex := []
  buses : List Config.Bus := []
  catalog : Catalog
  counts : FrameCounts := {}

namespace Router

/-- The signals of the table. -/
def signals (router : Router) : List Signal := router.channels.map (·.signal)

/-- The channel with a given signal name. -/
def channel? (router : Router) (name : String) : Option Channel :=
  router.channels.find? (·.signal.name == name)

/-! ## Setting up -/

/-- Add a bus, or replace the one with its address. -/
def addBus (router : Router) (bus : Config.Bus) : Router :=
  let buses :=
    if router.buses.any (·.address == bus.address) then
      router.buses.map fun other => if other.address == bus.address then bus else other
    else router.buses ++ [bus]
  { router with buses }

/-- Add a valid channel whose signal name is new. -/
def addChannel (router : Router) (channel : Channel) : Except Fault Router := do
  channel.validate
  if (router.channel? channel.signal.name).isSome then
    .error (.signal (.nameUsedTwice channel.signal.name))
  else
    return { router with
      channels := router.channels ++ [channel]
      index := router.index.insert channel.signal.key router.channels.length }

/-- Give a signal another handler. -/
def setHandler (router : Router) (name : String) (handler : Handler) : Except Fault Router :=
  match router.channel? name with
  | none => .error (.signalNotFound name)
  | some channel =>
    if handler.isState && channel.signal.states.isEmpty then
      .error (.signal (.noStatesForHandler name))
    else
      .ok { router with
        channels := router.channels.map fun c =>
          if c.signal.name == name then { c with handler } else c }

/-- The router of a configuration. -/
def ofVehicle (vehicle : Config.Vehicle) : Except Fault Router := do
  vehicle.validate
  let empty : Catalog :=
    { capacity := vehicle.capacity, defaultFrequency := vehicle.rawFrequency }
  let catalog ← vehicle.rawMessages.foldlM
    (fun catalog raw => catalog.preload raw.definition) empty
  let router : Router := vehicle.buses.foldl addBus { catalog }
  vehicle.channels.foldlM addChannel router

/-! ## Frames -/

/-- Run one cycle of the signal at a place of the table.  The handler sees the
table with the sampled signal in it, whose last value is still the one before. -/
def translateAt (channels : List Channel) (place : Nat) (data : Payload) (now : Time) :
    List Channel × List Step :=
  match channels[place]? with
  | none => (channels, [])
  | some channel =>
    let (signal, sample) := channel.signal.sample data now
    let table := (channels.map (·.signal)).set place signal
    let (translated, send) := channel.handler.apply signal table sample.value sample.send
    let steps :=
      if send then
        match translated.toMessage? signal.name with
        | some message => [.send message]
        | none => [.note (.noValue signal.name)]
      else []
    (channels.set place { channel with signal := signal.record sample.value }, steps)

/-- Run one cycle of each of some signals, in order. -/
def translateAll (data : Payload) (now : Time) :
    List Channel → List Nat → List Channel × List Step
  | channels, [] => (channels, [])
  | channels, place :: rest =>
    let (channels, steps) := translateAt channels place data now
    let (channels, more) := translateAll data now channels rest
    (channels, steps ++ more)

/-- Are frames without signals forwarded from a bus? -/
def forwards (router : Router) (address : UInt8) : Bool :=
  router.buses.any fun bus => bus.address == address && bus.rawPassthrough

/-- Handle one frame. -/
def frame (router : Router) (key : Key) (data : Payload) (now : Time) : Router × List Step :=
  let counts := { router.counts with processed := router.counts.processed + 1 }
  match router.index.find? key with
  | some places =>
    let (channels, steps) := translateAll data now router.channels places
    ({ router with channels, counts := { counts with translated := counts.translated + 1 } },
      .note (.translating key) :: steps)
  | none =>
    if router.forwards key.bus then
      let (catalog, steps) := router.catalog.pass key data now
      ({ router with
          catalog, counts := { counts with passedThrough := counts.passedThrough + 1 } },
        steps)
    else
      ({ router with counts := { counts with ignored := counts.ignored + 1 } },
        [.note (.ignored key)])

end Router

end VehicleBus
