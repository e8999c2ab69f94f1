import VehicleBus.Proofs.Sampling.Clock
import VehicleBus.Sampling.Gate

/-!
# Sequences of cycles

A signal runs one cycle after the other, each with a payload and a time.  `Signal.before`
is the signal that a cycle finds, as a function of the number of cycles before it.

A change is measured against the value decoded last, reported or not, and from the
second cycle on something has been reported.  So a cycle reports what its own clock and
the two latest values tell it to (`Signal.Fresh.sentAt_succ`).

With forced changes this makes the reports a matter of the values alone
(`Signal.forced_changes_sent`).  Without them, a change that arrives while the clock
holds back is taken note of and not reported; if the value stays, the next tick finds
nothing new (`Signal.change_sent_unless_noted`).
-/

namespace VehicleBus

/-! ## Equal numbers -/

/-- Numbers that are equal to the same number are equal. -/
theorem Binary.Datum.same_trans {a b c : Binary.Datum} (hab : a.same b = true)
    (hbc : b.same c = true) : a.same c = true := by
  cases a with
  | nan => cases hab
  | infinite s =>
      cases b with
      | nan => cases hab
      | infinite t =>
          rw [eq_of_beq hab]
          exact hbc
      | finite t n => cases hab
  | finite s m =>
      cases b with
      | nan => cases hab
      | infinite t => cases hab
      | finite t n =>
          cases c with
          | nan => cases hbc
          | infinite u => cases hbc
          | finite u p =>
              exact decide_eq_true ((of_decide_eq_true hab).trans (of_decide_eq_true hbc))

/-- Two values that are both the same as a third one are the same. -/
theorem Binary64.same_trans {x y z : Binary64} (hxy : x.same y = true) (hyz : y.same z = true) :
    x.same z = true := Binary.Datum.same_trans hxy hyz

namespace Signal

/-! ## One cycle -/

/-- What a cycle leaves of a signal. -/
def cycle (signal : Signal) (data : Payload) (now : Time) : Signal :=
  (signal.sample data now).1.record (signal.sample data now).2.value

/-- When a cycle sends. -/
theorem sample_send (signal : Signal) (data : Payload) (now : Time) :
    (signal.sample data now).2.send =
      ((signal.clock.due now || (!(signal.decode data).same signal.lastValue && signal.forceChanged)) &&
        (!signal.received || signal.sendSame || !(signal.decode data).same signal.lastValue)) := by
  rw [← Sampling.Clock.poll_snd]
  rfl

/-- A signal of which nothing has been reported and whose clock has not ticked. -/
structure Fresh (signal : Signal) : Prop where
  unreceived : signal.received = false
  unticked : signal.clock.lastTick = none

/-- The first cycle sends. -/
theorem Fresh.sample_send {signal : Signal} (h : signal.Fresh) (data : Payload) (now : Time) :
    (signal.sample data now).2.send = true := by
  rw [Signal.sample_send, Sampling.Clock.due_of_unticked h.unticked, h.unreceived]
  rfl

/-- A cycle polls the clock. -/
theorem cycle_clock (signal : Signal) (data : Payload) (now : Time) :
    (signal.cycle data now).clock = (signal.clock.poll now).1 := rfl

/-- A signal that has been reported and whose clock has ticked. -/
structure Begun (signal : Signal) : Prop where
  received : signal.received = true
  ticked : signal.clock.lastTick.isSome = true

/-- The first cycle leaves both marks. -/
theorem Fresh.cycle {signal : Signal} (h : signal.Fresh) (data : Payload) (now : Time) :
    (signal.cycle data now).Begun where
  received := by
    show (signal.received || (signal.sample data now).2.send) = true
    rw [h.sample_send, Bool.or_true]
  ticked := by
    rw [cycle_clock, Sampling.Clock.poll_of_due (Sampling.Clock.due_of_unticked h.unticked now)]
    rfl

/-- And so they stay. -/
theorem Begun.cycle {signal : Signal} (h : signal.Begun) (data : Payload) (now : Time) :
    (signal.cycle data now).Begun where
  received := by
    show (signal.received || (signal.sample data now).2.send) = true
    rw [h.received, Bool.true_or]
  ticked := by
    rw [cycle_clock]
    by_cases hdue : signal.clock.due now = true
    · rw [Sampling.Clock.poll_of_due hdue]
      rfl
    · rw [Sampling.Clock.poll_of_not_due hdue]
      exact h.ticked

/-! ## Sequences of cycles -/

variable (signal : Signal) (inputs : Nat → Payload × Time)

/-- The signal that a cycle finds. -/
def before : Nat → Signal
  | 0 => signal
  | k + 1 => (before k).cycle (inputs k).1 (inputs k).2

/-- The value that a cycle decodes. -/
def valueAt (k : Nat) : Binary64 := ((signal.before inputs k).sample (inputs k).1 (inputs k).2).2.value

/-- Does the clock tick in a cycle? -/
def tickedAt (k : Nat) : Bool := (signal.before inputs k).clock.due (inputs k).2

/-- Does a cycle send its value? -/
def sentAt (k : Nat) : Bool := ((signal.before inputs k).sample (inputs k).1 (inputs k).2).2.send

/-- Cycles do not touch what a signal is defined to be. -/
theorem before_fixed (k : Nat) :
    (signal.before inputs k).decode = signal.decode ∧
      (signal.before inputs k).forceChanged = signal.forceChanged ∧
      (signal.before inputs k).sendSame = signal.sendSame := by
  induction k with
  | zero => exact ⟨rfl, rfl, rfl⟩
  | succ k ih => exact ih

/-- A cycle finds the value of the one before, sent or not. -/
theorem before_succ_lastValue (k : Nat) :
    (signal.before inputs (k + 1)).lastValue = signal.valueAt inputs k := rfl

/-- Values do not depend on what came before. -/
theorem valueAt_eq (k : Nat) : signal.valueAt inputs k = signal.decode (inputs k).1 := by
  have hdecode := (signal.before_fixed inputs k).1
  exact congrFun hdecode (inputs k).1

variable {signal}

/-- After the first cycle something has been reported. -/
theorem Fresh.received (h : signal.Fresh) (k : Nat) :
    (signal.before inputs (k + 1)).received = true := by
  have hbegun : (signal.before inputs (k + 1)).Begun := by
    induction k with
    | zero => exact h.cycle (inputs 0).1 (inputs 0).2
    | succ k ih => exact ih.cycle (inputs (k + 1)).1 (inputs (k + 1)).2
  exact hbegun.received

/-- The first cycle of a fresh signal is sent. -/
theorem Fresh.sentAt_zero (h : signal.Fresh) : signal.sentAt inputs 0 = true :=
  h.sample_send (inputs 0).1 (inputs 0).2

/-- **A later cycle** goes by its clock and the two latest values. -/
theorem Fresh.sentAt_succ (h : signal.Fresh) (k : Nat) :
    signal.sentAt inputs (k + 1) =
      ((signal.tickedAt inputs (k + 1) ||
          (!(signal.valueAt inputs (k + 1)).same (signal.valueAt inputs k) && signal.forceChanged)) &&
        (signal.sendSame || !(signal.valueAt inputs (k + 1)).same (signal.valueAt inputs k))) := by
  obtain ⟨-, hforce, hsame⟩ := signal.before_fixed inputs (k + 1)
  rw [sentAt, Signal.sample_send, h.received, hforce, hsame, before_succ_lastValue]
  rfl

/-- Without repetitions, what is sent are changes. -/
theorem Fresh.sentAt_succ_of_changes (h : signal.Fresh) (hsame : signal.sendSame = false) (k : Nat) :
    signal.sentAt inputs (k + 1) =
      (!(signal.valueAt inputs (k + 1)).same (signal.valueAt inputs k) &&
        (signal.tickedAt inputs (k + 1) || signal.forceChanged)) := by
  rw [h.sentAt_succ, hsame]
  cases (signal.valueAt inputs (k + 1)).same (signal.valueAt inputs k) <;> simp

/-! ## Forced changes -/

/-- **Forced changes are reported at once.**  A signal that forces its changes sends its
first value and every value that differs from the one decoded before, whatever the
clock does.  If it does not repeat values, it sends nothing else; then neither the times
nor the frequency bear on what is sent. -/
theorem forced_changes_sent (hfresh : signal.Fresh) (hforce : signal.forceChanged = true) :
    signal.sentAt inputs 0 = true ∧
      (∀ k, (signal.valueAt inputs (k + 1)).same (signal.valueAt inputs k) = false →
        signal.sentAt inputs (k + 1) = true) ∧
      (signal.sendSame = false →
        (∀ k, signal.sentAt inputs (k + 1) = true ↔
          (signal.valueAt inputs (k + 1)).same (signal.valueAt inputs k) = false) ∧
        ∀ (frequency : Binary32) (times : Nat → Time) (k : Nat),
          sentAt { signal with clock := .ofFrequency frequency }
            (fun k => ((inputs k).1, times k)) k = signal.sentAt inputs k) := by
  refine ⟨hfresh.sentAt_zero inputs, ?_, ?_⟩
  · intro k hdiffers
    rw [hfresh.sentAt_succ, hdiffers, hforce]
    simp
  · intro hsame
    have hchanges : ∀ k, signal.sentAt inputs (k + 1) =
        !(signal.valueAt inputs (k + 1)).same (signal.valueAt inputs k) := by
      intro k
      rw [hfresh.sentAt_succ_of_changes inputs hsame, hforce, Bool.or_true, Bool.and_true]
    constructor
    · intro k
      rw [hchanges, Bool.not_eq_true']
    · intro frequency times k
      have hother : Fresh { signal with clock := .ofFrequency frequency } :=
        ⟨hfresh.unreceived, rfl⟩
      cases k with
      | zero => rw [hother.sentAt_zero, hfresh.sentAt_zero]
      | succ k =>
          rw [hother.sentAt_succ_of_changes _ hsame, hforce, Bool.or_true, Bool.and_true, hchanges]
          simp only [valueAt_eq]
          rfl

/-- A lever that is read ten times a second at most and does not repeat its position. -/
def lever : Signal where
  name := "lever"
  position := 0
  size := 8
  clock := .ofFrequency ⟨0x41200000⟩
  sendSame := false

/-- A lever that forces its changes, moved while the clock is set back. -/
theorem forced_changes_sent_lever :
    let forced : Signal := { lever with forceChanged := true }
    let inputs : Nat → Payload × Time := fun k =>
      ([(0x0100000000000000, 500), (0x0200000000000000, 510)] : List (Payload × Time)).getD k
        (0x0200000000000000, 20)
    forced.Fresh ∧ forced.forceChanged = true ∧ forced.sendSame = false ∧
      (forced.valueAt inputs 1).same (forced.valueAt inputs 0) = false ∧
      forced.sentAt inputs 1 = true ∧
      sentAt { forced with clock := .ofFrequency ⟨0⟩ } (fun k => ((inputs k).1, 7)) 2 =
        forced.sentAt inputs 2 := by
  intro forced inputs
  have hfresh : forced.Fresh := ⟨rfl, rfl⟩
  have hdiffers : (forced.valueAt inputs 1).same (forced.valueAt inputs 0) = false := by
    decide +kernel
  obtain ⟨-, hchange, honly⟩ := forced_changes_sent inputs hfresh rfl
  obtain ⟨-, htimes⟩ := honly rfl
  exact ⟨hfresh, rfl, rfl, hdiffers, hchange 0 hdiffers, htimes ⟨0⟩ (fun _ => 7) 2⟩

/-! ## Changes that wait for the clock -/

/-- What holds at a time and not at an earlier one began to hold in between. -/
theorem exists_arrival {p : Nat → Prop} {i k : Nat} (hik : i ≤ k) (hi : ¬ p i) (hk : p k) :
    ∃ j, i ≤ j ∧ j < k ∧ ¬ p j ∧ ∀ l, j < l → l ≤ k → p l := by
  induction hik with
  | refl => exact absurd hk hi
  | @step k hik ih =>
      by_cases hlast : p k
      · obtain ⟨j, hij, hjk, hbefore, hafter⟩ := ih hlast
        refine ⟨j, hij, by omega, hbefore, ?_⟩
        intro l hjl hlk
        by_cases hl : l = k + 1
        · exact hl ▸ hk
        · exact hafter l hjl (by omega)
      · refine ⟨k, hik, by omega, hlast, ?_⟩
        intro l hkl hlk
        have hl : l = k + 1 := by omega
        exact hl ▸ hk

/-- **A change that waits is lost.**  A signal that does not repeat values sends a
changed value in the cycle in which it arrives, if the clock ticks there or changes are
forced, and in no later cycle while it stays.  So a value that differs from the one sent
last is held back at a tick exactly if it arrived, and stayed, since a cycle in which
the clock did not tick, and changes are not forced. -/
theorem change_sent_unless_noted (hfresh : signal.Fresh) (hsame : signal.sendSame = false) :
    (∀ k, signal.sentAt inputs (k + 1) =
      (!(signal.valueAt inputs (k + 1)).same (signal.valueAt inputs k) &&
        (signal.tickedAt inputs (k + 1) || signal.forceChanged))) ∧
      ∀ i k, i < k → signal.sentAt inputs i = true →
        (∀ j, i < j → j < k → signal.sentAt inputs j = false) →
        signal.tickedAt inputs k = true →
        (signal.valueAt inputs k).same (signal.valueAt inputs i) = false →
        (signal.sentAt inputs k = false ↔
          signal.forceChanged = false ∧
            ∃ j, i < j ∧ j < k ∧ signal.tickedAt inputs j = false ∧
              ∀ l, j ≤ l → l < k →
                (signal.valueAt inputs k).same (signal.valueAt inputs l) = true) := by
  have hchanges := hfresh.sentAt_succ_of_changes inputs hsame
  refine ⟨hchanges, ?_⟩
  intro i k hik hsent hheld hticked hdiffers
  obtain ⟨last, rfl⟩ : ∃ last, k = last + 1 := ⟨k - 1, by omega⟩
  have hunsent : signal.sentAt inputs (last + 1) = false ↔
      (signal.valueAt inputs (last + 1)).same (signal.valueAt inputs last) = true := by
    rw [hchanges, hticked, Bool.true_or, Bool.and_true, Bool.not_eq_false']
  rw [hunsent]
  constructor
  · intro hstayed
    obtain ⟨j, hij, hjk, hbefore, hafter⟩ := exists_arrival
      (p := fun l => (signal.valueAt inputs (last + 1)).same (signal.valueAt inputs l) = true)
      (show i ≤ last by omega) (ne_true_of_eq_false hdiffers) hstayed
    -- The value arrived in the cycle after `j`, and that cycle was held back.
    have hchanged : (signal.valueAt inputs (j + 1)).same (signal.valueAt inputs j) = false := by
      rw [Bool.eq_false_iff]
      intro hequal
      exact hbefore (Binary64.same_trans (hafter (j + 1) (by omega) (by omega)) hequal)
    have harrival := hheld (j + 1) (by omega) (by omega)
    rw [hchanges, hchanged, Bool.not_false, Bool.true_and, Bool.or_eq_false_iff] at harrival
    refine ⟨harrival.2, j + 1, by omega, by omega, harrival.1, ?_⟩
    intro l hjl hlk
    exact hafter l (by omega) (by omega)
  · rintro ⟨-, j, hij, hjk, -, hstayed⟩
    exact hstayed last (by omega) (by omega)

/-- A lever that is moved back and forth between two ticks, and rests when the second
one comes. -/
theorem change_sent_unless_noted_lever :
    let inputs : Nat → Payload × Time := fun k =>
      ([(0x0100000000000000, 0), (0x0200000000000000, 10), (0x0300000000000000, 60)] :
        List (Payload × Time)).getD k (0x0200000000000000, 100)
    lever.Fresh ∧ lever.sendSame = false ∧ lever.sentAt inputs 0 = true ∧
      (∀ j, 0 < j → j < 3 → lever.sentAt inputs j = false) ∧
      lever.tickedAt inputs 3 = true ∧
      (lever.valueAt inputs 3).same (lever.valueAt inputs 0) = false ∧
      (lever.sentAt inputs 3 = false ↔
        lever.forceChanged = false ∧
          ∃ j, 0 < j ∧ j < 3 ∧ lever.tickedAt inputs j = false ∧
            ∀ l, j ≤ l → l < 3 →
              (lever.valueAt inputs 3).same (lever.valueAt inputs l) = true) ∧
      lever.sentAt inputs 3 = true := by
  intro inputs
  have hfresh : lever.Fresh := ⟨rfl, rfl⟩
  have hsent : lever.sentAt inputs 0 = true := by decide +kernel
  have hheld : ∀ j, 0 < j → j < 3 → lever.sentAt inputs j = false := by
    intro j hj hj'
    obtain rfl | rfl : j = 1 ∨ j = 2 := by omega
    · decide +kernel
    · decide +kernel
  have hticked : lever.tickedAt inputs 3 = true := by decide +kernel
  have hdiffers : (lever.valueAt inputs 3).same (lever.valueAt inputs 0) = false := by
    decide +kernel
  have hmoved : (lever.valueAt inputs 3).same (lever.valueAt inputs 2) = false := by
    decide +kernel
  obtain ⟨hchanges, hwaits⟩ := change_sent_unless_noted inputs hfresh rfl
  refine ⟨hfresh, rfl, hsent, hheld, hticked, hdiffers,
    hwaits 0 3 (by decide) hsent hheld hticked hdiffers, ?_⟩
  rw [hchanges, hticked, hmoved]
  rfl

/-- A lever is moved between two ticks and stays: at the second tick its position is not
the one that was sent, and is not sent. -/
theorem change_between_ticks_lost :
    let inputs : Nat → Payload × Time := fun k =>
      ([(0x0100000000000000, 0), (0x0200000000000000, 10)] : List (Payload × Time)).getD k
        (0x0200000000000000, 100)
    lever.Fresh ∧ lever.sendSame = false ∧
      (List.range 3).map (lever.valueAt inputs) =
        [Binary64.ofNat 1, Binary64.ofNat 2, Binary64.ofNat 2] ∧
      lever.sentAt inputs 0 = true ∧ lever.sentAt inputs 1 = false ∧
      lever.tickedAt inputs 2 = true ∧
      (lever.valueAt inputs 2).same (lever.valueAt inputs 0) = false ∧
      lever.sentAt inputs 2 = false := by
  intro inputs
  have hcycles : (List.range 3).map (lever.valueAt inputs) =
        [Binary64.ofNat 1, Binary64.ofNat 2, Binary64.ofNat 2] ∧
      lever.sentAt inputs 0 = true ∧ lever.sentAt inputs 1 = false ∧
      lever.tickedAt inputs 2 = true ∧
      (lever.valueAt inputs 2).same (lever.valueAt inputs 0) = false ∧
      lever.sentAt inputs 2 = false := by
    decide +kernel
  exact ⟨⟨rfl, rfl⟩, rfl, hcycles⟩

end Signal

end VehicleBus
