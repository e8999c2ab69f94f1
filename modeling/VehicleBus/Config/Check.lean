import VehicleBus.Config

/-!
# Checking configurations

`Vehicle.faults` lists everything that is wrong with a configuration, in the
order in which it is reported; `Vehicle.validate` reports the first entry.
-/

namespace VehicleBus.Config

open Channel (faultIf)

/-- Each element with those before it. -/
def withEarlier {α : Type} (earlier : List α) : List α → List (List α × α)
  | [] => []
  | x :: rest => (earlier, x) :: withEarlier (x :: earlier) rest

namespace Vehicle

variable (vehicle : Vehicle)

/-- Buses whose address is taken. -/
def busFaults : List Fault :=
  (withEarlier [] vehicle.buses).flatMap fun (earlier, bus) =>
    faultIf (earlier.any (·.address == bus.address)) (.config (.busDefinedTwice bus.address))

/-- Messages on buses that are not listed, if any are, and messages defined
before. -/
def messageFaults : List Fault :=
  (withEarlier [] vehicle.messages).flatMap fun (earlier, message) =>
    faultIf (!vehicle.buses.isEmpty && (vehicle.bus? message.key.bus).isNone)
      (.config (.unknownBus message.key)) ++
    faultIf (earlier.any (·.key == message.key)) (.duplicateMessage message.key)

/-- Faults of single signals, and names that are taken. -/
def signalFaults : List Fault :=
  (withEarlier [] vehicle.channels).flatMap fun (earlier, channel) =>
    channel.faults ++
    faultIf (earlier.any (·.signal.name == channel.signal.name))
      (.signal (.nameUsedTwice channel.signal.name))

/-- Forwarded messages without a proper rate, and those that are decoded. -/
def rawMessageFaults : List Fault :=
  vehicle.rawMessages.flatMap fun raw =>
    faultIf (!Sampling.Clock.validFrequency raw.frequency)
      (.config (.invalidRawMessageFrequency raw.key raw.frequency)) ++
    faultIf (vehicle.messages.any (·.key == raw.key)) (.config (.rawMessageHasSignals raw.key))

/-- The faults of a configuration. -/
def faults : List Fault :=
  faultIf (!Sampling.Clock.validFrequency vehicle.rawFrequency)
    (.config (.invalidRawFrequency vehicle.rawFrequency)) ++
  vehicle.busFaults ++
  vehicle.messageFaults ++
  vehicle.signalFaults ++
  faultIf (decide (vehicle.capacity < vehicle.rawMessages.length))
    (.config (.tooManyRawMessages vehicle.rawMessages.length vehicle.capacity)) ++
  vehicle.rawMessageFaults

/-- Accept a configuration, or report its first fault. -/
def validate : Except Fault Unit :=
  match vehicle.faults with
  | [] => .ok ()
  | fault :: _ => .error fault

end Vehicle

end VehicleBus.Config
