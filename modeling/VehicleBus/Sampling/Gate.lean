import VehicleBus.Signal

/-!
# The sampling gate

Every frame of a signal runs one cycle: `Signal.sample` decodes the value and
decides whether it may be reported, and `Signal.record` afterwards keeps the
value, whatever was decided.

The clock is polled in every cycle, also for values that are reported because
they changed, so a change restarts the period.
-/

namespace VehicleBus.Signal

/-- A decoded value and the decision to report it. -/
structure Sample where
  value : Binary64
  send : Bool
deriving DecidableEq, Repr

/-- Decode a value and decide whether it may be reported.  The clock opens the
gate, and so does a change if the signal asks for that; an open gate still holds
back an unchanged value that need not be repeated. -/
def sample (signal : Signal) (data : Payload) (now : Time) : Signal × Sample :=
  let value := signal.decode data
  let (clock, ticked) := signal.clock.poll now
  let changed := !value.same signal.lastValue
  let send := (ticked || (changed && signal.forceChanged)) &&
    (!signal.received || signal.sendSame || changed)
  ({ signal with clock, received := signal.received || send }, { value, send })

/-- Keep a value as the last one. -/
def record (signal : Signal) (value : Binary64) : Signal :=
  { signal with lastValue := value }

end VehicleBus.Signal
