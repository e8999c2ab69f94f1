import VehicleBus.Config

/-!
# Writing configurations

The document of a configuration names every setting, also those that have their
usual value, in a fixed order.
-/

namespace VehicleBus.Config

def Bus.document (bus : Bus) : Document :=
  .object [("address", .integer bus.address.toNat), ("raw_passthrough", .flag bus.rawPassthrough)]

/-- The document of one state of a signal. -/
def stateDocument (state : SignalState) : Document :=
  .object [("value", .integer state.code.toInt), ("name", .text state.name)]

def SignalDef.document (signal : SignalDef) : Document :=
  .object [
    ("generic_name", .text signal.name),
    ("bit_position", .integer signal.position.toNat),
    ("bit_size", .integer signal.size.toNat),
    ("factor", .double signal.factor),
    ("offset", .double signal.offset),
    ("frequency_hz", .single signal.frequency),
    ("force_send_changed", .flag signal.forceChanged),
    ("send_same", .flag signal.sendSame),
    ("handler", .text signal.handler.name),
    ("states", .list (signal.states.map stateDocument))]

def MessageDef.document (message : MessageDef) : Document :=
  .object [
    ("bus", .integer message.key.bus.toNat),
    ("id", .integer message.key.id.toNat),
    ("signals", .list (message.signals.map (·.document)))]

def RawMessageDef.document (raw : RawMessageDef) : Document :=
  .object [
    ("bus", .integer raw.key.bus.toNat),
    ("id", .integer raw.key.id.toNat),
    ("frequency_hz", .single raw.frequency),
    ("force_send_changed", .flag raw.forceChanged)]

/-- The document of a configuration. -/
def Vehicle.document (vehicle : Vehicle) : Document :=
  .object [
    ("output_format", .text vehicle.format.name),
    ("message_capacity", .integer vehicle.capacity),
    ("raw_frequency_hz", .single vehicle.rawFrequency),
    ("buses", .list (vehicle.buses.map (·.document))),
    ("messages", .list (vehicle.messages.map (·.document))),
    ("raw_messages", .list (vehicle.rawMessages.map (·.document)))]

end VehicleBus.Config
