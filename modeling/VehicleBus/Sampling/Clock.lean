import VehicleBus.Binary.Binary32

/-!
# Sampling clocks

A sampling clock limits how often something is reported.  It is polled, never
pushed: each poll is given the current time and answers whether a period has
passed since the last tick.  A poll that ticks records its time; a poll that
does not leaves the clock as it was.

Time may stand still or run backwards; the elapsed time is then zero.
-/

namespace VehicleBus

/-- Milliseconds since some fixed origin. -/
abbrev Time := UInt64

namespace Time

/-- Milliseconds passed since `start`, none if `start` is still to come. -/
def since (now start : Time) : Nat := now.toNat - start.toNat

end Time

namespace Sampling

/-- A rate limit and the time of the last tick. -/
structure Clock where
  /-- Greatest rate in ticks per second; zero is no limit. -/
  frequency : Binary32 := Binary32.zero
  /-- Time of the last tick, `none` before the first one. -/
  lastTick : Option Time := none
deriving DecidableEq, Repr, Inhabited

namespace Clock

/-- A clock that has not ticked. -/
def ofFrequency (frequency : Binary32) : Clock := { frequency }

/-- The frequencies that a definition may ask for: finite and not negative. -/
def validFrequency (frequency : Binary32) : Bool :=
  frequency.isFinite && Binary32.zero.datum.atMost frequency.datum

/-- The period in milliseconds, `none` if the rate is not limited. -/
def period (clock : Clock) : Option Binary64 :=
  if clock.frequency.isPositive then
    some (Binary64.ofNat 1000 / clock.frequency.widen)
  else none

/-- Does a poll at `now` tick?  The first poll does, and so does every poll of
an unlimited clock. -/
def due (clock : Clock) (now : Time) : Bool :=
  match clock.period, clock.lastTick with
  | some period, some last => period.atMost (Binary64.ofNat (now.since last))
  | _, _ => true

/-- Poll the clock. -/
def poll (clock : Clock) (now : Time) : Clock × Bool :=
  if clock.due now then ({ clock with lastTick := some now }, true)
  else (clock, false)

end Clock

end Sampling

end VehicleBus
