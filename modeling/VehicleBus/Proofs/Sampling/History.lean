import VehicleBus.Proofs.Sampling.Gate

/-!
# What is left of a signal

A signal that is added has not been reported and its clock has not ticked
(`Signal.Fresh`).  Its first cycle polls a clock that has not ticked, which is due whatever
its frequency, and so it both starts the clock and reports the value.  From then on a signal
is `Signal.Begun`, and stays so.  Hence two marks that are written under different
conditions always agree (`Signal.Fresh.begun_cycles`).
-/

namespace VehicleBus.Signal

open Sampling (Clock)

/-- What a row of cycles leaves of a signal. -/
def cycles (signal : Signal) (history : List (Payload × Time)) : Signal :=
  history.foldl (fun signal input => signal.cycle input.1 input.2) signal

variable {signal : Signal}

@[simp] theorem cycles_nil (signal : Signal) : signal.cycles [] = signal := rfl

theorem cycles_append (signal : Signal) (front back : List (Payload × Time)) :
    signal.cycles (front ++ back) = (signal.cycles front).cycles back := List.foldl_append

theorem cycles_concat (signal : Signal) (history : List (Payload × Time)) (data : Payload)
    (now : Time) :
    signal.cycles (history ++ [(data, now)]) = (signal.cycles history).cycle data now :=
  signal.cycles_append history [(data, now)]

/-- What a signal is defined to be does not change. -/
theorem cycles_fixed (signal : Signal) (history : List (Payload × Time)) :
    (signal.cycles history).name = signal.name ∧ (signal.cycles history).key = signal.key ∧
      (signal.cycles history).decode = signal.decode ∧
      (signal.cycles history).clock.frequency = signal.clock.frequency := by
  induction history using List.reverseRecOn with
  | nil => exact ⟨rfl, rfl, rfl, rfl⟩
  | append_singleton history input ih =>
      obtain ⟨hname, hkey, hdecode, hfrequency⟩ := ih
      rw [cycles_concat]
      exact ⟨hname, hkey, hdecode, (Clock.poll_frequency _ _).trans hfrequency⟩

/-- The value is that of the latest payload. -/
theorem lastValue_cycles (signal : Signal) (history : List (Payload × Time)) :
    (signal.cycles history).lastValue =
      (history.getLast?.map fun latest => signal.decode latest.1).getD signal.lastValue := by
  induction history using List.reverseRecOn with
  | nil => rfl
  | append_singleton history input =>
      obtain ⟨-, -, hdecode, -⟩ := signal.cycles_fixed history
      rw [cycles_concat, List.getLast?_concat]
      exact congrFun hdecode input.1

/-! ## The marks of the first cycle -/

/-- A signal that has begun does not go back. -/
theorem Begun.cycles (h : signal.Begun) (history : List (Payload × Time)) :
    (signal.cycles history).Begun := by
  induction history using List.reverseRecOn with
  | nil => exact h
  | append_singleton history input ih =>
      rw [cycles_concat]
      exact ih.cycle input.1 input.2

/-- **Begun by the first cycle.** -/
theorem Fresh.begun_cycles (h : signal.Fresh) {history : List (Payload × Time)}
    (hhistory : history ≠ []) : (signal.cycles history).Begun := by
  cases history with
  | nil => exact absurd rfl hhistory
  | cons input rest => exact (h.cycle input.1 input.2).cycles rest

/-- Both marks tell whether there was a cycle. -/
theorem Fresh.received_cycles_iff (h : signal.Fresh) (history : List (Payload × Time)) :
    (signal.cycles history).received = true ↔ history ≠ [] := by
  refine ⟨?_, fun hhistory => (h.begun_cycles hhistory).received⟩
  rintro hreceived rfl
  cases hreceived.symm.trans h.unreceived

/-- A fresh signal has ticked exactly if it has gone through a cycle. -/
theorem Fresh.ticked_cycles_iff (h : signal.Fresh) (history : List (Payload × Time)) :
    (signal.cycles history).clock.lastTick.isSome = true ↔ history ≠ [] := by
  refine ⟨?_, fun hhistory => (h.begun_cycles hhistory).ticked⟩
  rintro hticked rfl
  rw [cycles_nil, h.unticked] at hticked
  cases hticked

/-- What a row of cycles has left of a signal that was new before. -/
structure Follows (signal : Signal) (history : List (Payload × Time)) (current : Signal) : Prop where
  state : current = signal.cycles history
  received : current.received = true ↔ history ≠ []
  ticked : current.clock.lastTick.isSome = true ↔ history ≠ []
  value : current.lastValue =
    (history.getLast?.map fun latest => signal.decode latest.1).getD Binary64.zero

/-- A fresh signal with the value zero follows every history. -/
theorem Fresh.follows (h : signal.Fresh) (hzero : signal.lastValue = Binary64.zero)
    (history : List (Payload × Time)) : signal.Follows history (signal.cycles history) where
  state := rfl
  received := h.received_cycles_iff history
  ticked := h.ticked_cycles_iff history
  value := by rw [lastValue_cycles, hzero]

/-! ## The time of the last tick -/

/-- **The last tick only goes on**, whatever the times of the cycles are. -/
theorem lastTick_cycles {period : Binary64} (h : signal.clock.HasPeriod period) {tick : Time}
    (htick : signal.clock.lastTick = some tick) (history : List (Payload × Time)) :
    ∃ later, (signal.cycles history).clock.lastTick = some later ∧ tick ≤ later := by
  induction history generalizing signal tick with
  | nil => exact ⟨tick, htick, UInt64.le_refl tick⟩
  | cons input rest ih =>
      obtain ⟨next, hnext, hle⟩ := h.lastTick_poll htick input.2
      have hperiod : (signal.cycle input.1 input.2).clock.HasPeriod period := h.poll input.2
      obtain ⟨later, hlater, hle'⟩ := ih hperiod hnext
      exact ⟨later, hlater, UInt64.le_trans hle hle'⟩

end VehicleBus.Signal
