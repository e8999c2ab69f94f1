import VehicleBus.Signal.Handler

/-!
# Channels

A channel is a signal with the handler that presents it: one row of the signal
table.  `Channel.faults` lists everything that keeps a channel out of a table,
in the order in which it is reported; a channel is valid when the list is empty.
-/

namespace VehicleBus

structure Channel where
  signal : Signal
  handler : Handler := .passthrough

namespace Channel

/-- A fault that is present when a condition holds. -/
def faultIf (present : Bool) (fault : Fault) : List Fault := if present then [fault] else []

/-- The faults of a channel, the one that is reported first. -/
def faults (channel : Channel) : List Fault :=
  let signal := channel.signal
  let name := signal.name
  (overlong? .name nameLimit name).toList ++
  faultIf name.isEmpty (.signal .emptyName) ++
  faultIf (signal.size == 0 || decide (64 < signal.position.toNat + signal.size.toNat))
    (.signal (.outsidePayload name signal.position signal.size)) ++
  faultIf (!signal.factor.isFinite || !signal.offset.isFinite)
    (.signal (.nonFiniteScaling name signal.factor signal.offset)) ++
  faultIf (!Sampling.Clock.validFrequency signal.clock.frequency)
    (.signal (.invalidFrequency name signal.clock.frequency)) ++
  faultIf (channel.handler.isState && signal.states.isEmpty) (.signal (.stateless name)) ++
  signal.states.flatMap fun state => (overlong? .stateName nameLimit state.name).toList

/-- Accept a channel, or report its first fault. -/
def validate (channel : Channel) : Except Fault Unit :=
  match channel.faults with
  | [] => .ok ()
  | fault :: _ => .error fault

end Channel

end VehicleBus
