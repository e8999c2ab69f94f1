import VehicleBus.Proofs.Binary.Value
import VehicleBus.Sampling.Clock

/-!
# The spacing of ticks

A poll that ticks is one period after the tick before, as the clock measures it
(`Clock.spaced_of_due`).  A clock that is shown times in the past does not tick, so ticks
are that far from each other whatever the order of the polls (`Clock.ticks_spaced`).

The period of a clock is a rounded quotient, a positive number next to `1000` divided by
the frequency (`Clock.exists_hasPeriod`), and the elapsed time a rounded integer.  The
rounding makes no difference for elapsed times of up to 53 bits, nor for periods of that
length (`Clock.HasPeriod.apart_of_spaced`): then ticks are apart by at least the number
that the period is (`Clock.HasPeriod.ticks_apart`).
-/

namespace VehicleBus.Sampling.Clock

/-- Polling a clock does not change its rate. -/
@[simp] theorem poll_frequency (clock : Clock) (now : Time) :
    (clock.poll now).1.frequency = clock.frequency := by
  unfold poll
  split <;> rfl

/-- Polling leaves the period as it is. -/
@[simp] theorem poll_period (clock : Clock) (now : Time) :
    (clock.poll now).1.period = clock.period := by
  simp only [period, poll_frequency]

/-- A poll answers whether the clock is due. -/
theorem poll_snd (clock : Clock) (now : Time) : (clock.poll now).2 = clock.due now := by
  unfold poll
  split
  · rename_i hdue
    exact hdue.symm
  · rename_i hdue
    exact (eq_false_of_ne_true hdue).symm

/-- The first poll ticks. -/
theorem due_of_unticked {clock : Clock} (h : clock.lastTick = none) (now : Time) :
    clock.due now = true := by
  unfold due
  rw [h]
  split
  · rename_i hlast
    cases hlast
  · rfl

/-- A poll that ticks records its time. -/
theorem poll_of_due {clock : Clock} {now : Time} (h : clock.due now = true) :
    (clock.poll now).1 = { clock with lastTick := some now } := by
  rw [poll, if_pos h]

/-- A poll that does not tick leaves the clock as it was. -/
theorem poll_of_not_due {clock : Clock} {now : Time} (h : ¬ clock.due now = true) :
    (clock.poll now).1 = clock := by
  rw [poll, if_neg h]

/-! ## Periods -/

/-- A clock whose rate is limited: its period is a positive number of milliseconds, the
one next to `1000` divided by the frequency. -/
structure HasPeriod (clock : Clock) (period : Binary64) : Prop where
  defined : clock.period = some period
  finite : period.isFinite = true
  pos : 0 < period.toRat
  nearest : |period.toRat * clock.frequency.toRat - 1000| * 2 ^ 53 ≤ 1000

/-- A positive frequency has a period. -/
theorem exists_hasPeriod {clock : Clock} (hfinite : clock.frequency.isFinite = true)
    (hpositive : clock.frequency.isPositive = true) : ∃ period, clock.HasPeriod period := by
  have hpos : 0 < clock.frequency.toRat := (Binary32.isPositive_iff hfinite).mp hpositive
  have hwiden : clock.frequency.widen.toRat = clock.frequency.toRat := (Binary32.toRat_widen hfinite).2
  have hthousand : (Binary64.ofNat 1000).toRat = 1000 := (Binary64.toRat_ofNat (by decide)).2
  obtain ⟨hleast, hgreatest⟩ := Binary32.bounds hpos
  -- The quotient is far from both ends of the wide format.
  have hlow : clock.frequency.toRat ≤ 1000 * 2 ^ 128 := by linarith
  have hhigh : 1000 < clock.frequency.toRat * 2 ^ 159 := by
    have hpower : clock.frequency.toRat * 2 ^ 159 = clock.frequency.toRat * 2 ^ 149 * 2 ^ 10 := by ring
    linarith
  obtain ⟨hquotient, herror⟩ := Binary64.div_error (x := Binary64.ofNat 1000)
    (y := clock.frequency.widen) (by rw [hthousand]; norm_num) (by rw [hwiden]; exact hpos)
    (by rw [hwiden, hthousand]; exact hlow) (by decide)
    (by rw [hwiden, hthousand]; exact hhigh) (by decide)
  rw [hwiden, hthousand] at herror
  refine ⟨Binary64.ofNat 1000 / clock.frequency.widen, if_pos hpositive, hquotient, ?_, herror⟩
  -- Zero would be off by the whole of the exact quotient.
  have hproduct : 0 < (Binary64.ofNat 1000 / clock.frequency.widen).toRat * clock.frequency.toRat := by
    have hoff := neg_le_abs
      ((Binary64.ofNat 1000 / clock.frequency.widen).toRat * clock.frequency.toRat - 1000)
    linarith
  exact (mul_pos_iff_of_pos_right hpos).mp hproduct

/-- Polling keeps the period of a clock. -/
theorem HasPeriod.poll {clock : Clock} {period : Binary64} (h : clock.HasPeriod period)
    (now : Time) : (clock.poll now).1.HasPeriod period where
  defined := by rw [poll_period, h.defined]
  finite := h.finite
  pos := h.pos
  nearest := by
    rw [poll_frequency]
    exact h.nearest

/-! ## Ticks -/

/-- The later time is at least one period after the earlier one. -/
def Apart (period : Binary64) (earlier later : Time) : Prop :=
  earlier < later ∧ period.toRat ≤ later.toNat - earlier.toNat

/-- The clock measures at least one period between two times. -/
def Spaced (period : Binary64) (earlier later : Time) : Prop :=
  period.atMost (Binary64.ofNat (later.since earlier)) = true

/-- What is measured does not get shorter by going on. -/
theorem Spaced.trans {period : Binary64} {a b c : Time} (hab : Spaced period a b)
    (hbc : Spaced period b c) : Spaced period a c := by
  have hbound : c.since a < 2 ^ 64 := Nat.lt_of_le_of_lt (Nat.sub_le _ _) c.toNat_lt
  -- If the clock ran backwards from `b` to `c`, the second part was measured as zero.
  rcases Nat.le_total b.toNat c.toNat with hforward | hback
  · have hlonger : b.since a ≤ c.since a := Nat.sub_le_sub_right hforward _
    exact Binary.Datum.atMost_trans hab (Binary64.ofNat_mono hlonger hbound)
  · have hnone : c.since b ≤ c.since a := by
      rw [Time.since, Nat.sub_eq_zero_of_le hback]
      exact Nat.zero_le _
    exact Binary.Datum.atMost_trans hbc (Binary64.ofNat_mono hnone hbound)

/-- A tick is one period after the last, as the clock measures it. -/
theorem spaced_of_due {clock : Clock} {period : Binary64} (hperiod : clock.period = some period)
    {last now : Time} (hlast : clock.lastTick = some last) (hdue : clock.due now = true) :
    Spaced period last now := by
  rw [due, hperiod, hlast] at hdue
  exact hdue

/-- A positive period does not pass while the time stands still or runs backwards. -/
theorem HasPeriod.lt_of_spaced {clock : Clock} {period : Binary64} (h : clock.HasPeriod period)
    {earlier later : Time} (hspaced : Spaced period earlier later) : earlier < later := by
  rw [UInt64.lt_iff_toNat_lt]
  apply Nat.lt_of_sub_pos
  apply Nat.pos_of_ne_zero
  intro hnone
  obtain ⟨hfinite, hzero⟩ := Binary64.toRat_ofNat (show 0 < 2 ^ 53 by decide)
  rw [Spaced, Time.since, hnone, Binary64.atMost_iff h.finite hfinite, hzero, Nat.cast_zero] at hspaced
  exact absurd h.pos hspaced.not_gt

/-- A poll at an earlier time does not tick, so the last tick is never set back. -/
theorem HasPeriod.lastTick_poll {clock : Clock} {period : Binary64} (h : clock.HasPeriod period)
    {tick : Time} (htick : clock.lastTick = some tick) (now : Time) :
    ∃ later, (clock.poll now).1.lastTick = some later ∧ tick ≤ later := by
  by_cases hdue : clock.due now = true
  · have hlt : tick < now := h.lt_of_spaced (spaced_of_due h.defined htick hdue)
    exact ⟨now, by rw [poll_of_due hdue], UInt64.le_of_lt hlt⟩
  · exact ⟨tick, by rw [poll_of_not_due hdue, htick], UInt64.le_refl tick⟩

/-- Times of up to 53 bits are measured as they are, and longer ones last longer than any
period of up to 53 bits. -/
theorem HasPeriod.apart_of_spaced {clock : Clock} {period : Binary64} (h : clock.HasPeriod period)
    {earlier later : Time} (hshort : later.since earlier < 2 ^ 53 ∨ period.toRat ≤ 2 ^ 53)
    (hspaced : Spaced period earlier later) : Apart period earlier later := by
  have hlt : earlier < later := h.lt_of_spaced hspaced
  have helapsed : ((later.since earlier : Nat) : ℚ) = later.toNat - earlier.toNat :=
    Nat.cast_sub (UInt64.lt_iff_toNat_lt.mp hlt).le
  refine ⟨hlt, ?_⟩
  rw [← helapsed]
  by_cases hexact : later.since earlier < 2 ^ 53
  · obtain ⟨hfinite, hmeasured⟩ := Binary64.toRat_ofNat hexact
    rwa [Spaced, Binary64.atMost_iff h.finite hfinite, hmeasured] at hspaced
  · have hlong : ((2 ^ 53 : Nat) : ℚ) ≤ (later.since earlier : Nat) :=
      Nat.cast_le.mpr (Nat.not_lt.mp hexact)
    have hperiod := hshort.resolve_left hexact
    rw [Nat.cast_pow, Nat.cast_ofNat] at hlong
    exact hperiod.trans hlong

/-- The times at which polls tick. -/
def ticks : Clock → List Time → List Time
  | _, [] => []
  | clock, now :: rest =>
    if clock.due now then now :: ticks (clock.poll now).1 rest else ticks (clock.poll now).1 rest

/-- Ticks are a period apart as the clock measures it, from each other and from the last
one before. -/
theorem ticks_spaced {clock : Clock} {period : Binary64} (hperiod : clock.period = some period)
    (times : List Time) :
    (clock.ticks times).Pairwise (Spaced period) ∧
      ∀ last, clock.lastTick = some last → ∀ tick ∈ clock.ticks times, Spaced period last tick := by
  induction times generalizing clock with
  | nil => exact ⟨.nil, fun _ _ _ hmember => absurd hmember List.not_mem_nil⟩
  | cons now rest ih =>
      have hrest := ih (show (clock.poll now).1.period = some period by rw [poll_period, hperiod])
      rw [ticks]
      by_cases hdue : clock.due now = true
      · -- Later ticks are apart from this one, so they are from the last one as well.
        obtain ⟨hpairwise, hafter⟩ := hrest
        rw [poll_of_due hdue] at hpairwise hafter
        rw [if_pos hdue, poll_of_due hdue]
        refine ⟨List.pairwise_cons.mpr ⟨hafter now rfl, hpairwise⟩, ?_⟩
        intro last hlast tick hmember
        have hnow : Spaced period last now := spaced_of_due hperiod hlast hdue
        rcases List.mem_cons.mp hmember with rfl | hlater
        · exact hnow
        · exact hnow.trans (hafter now rfl tick hlater)
      · rw [poll_of_not_due hdue] at hrest
        rw [if_neg hdue, poll_of_not_due hdue]
        exact hrest

/-- Ticks are times of polls. -/
theorem ticks_sublist (clock : Clock) (times : List Time) : (clock.ticks times).Sublist times := by
  induction times generalizing clock with
  | nil => exact .slnil
  | cons now rest ih =>
      rw [ticks]
      split
      · exact (ih _).cons_cons now
      · exact (ih _).cons now

/-- **Ticks are apart**, from each other and from the last one before, however the
times of the polls are ordered. -/
theorem HasPeriod.ticks_apart {clock : Clock} {period : Binary64} (h : clock.HasPeriod period)
    {times : List Time} (hbound : ∀ now ∈ times, now.toNat < 2 ^ 53) :
    (clock.ticks times).Pairwise (Apart period) ∧
      ∀ last, clock.lastTick = some last → ∀ tick ∈ clock.ticks times, Apart period last tick := by
  have hshort : ∀ tick ∈ clock.ticks times, ∀ start, tick.since start < 2 ^ 53 := by
    intro tick hmember start
    exact Nat.lt_of_le_of_lt (Nat.sub_le _ _) (hbound tick ((clock.ticks_sublist times).subset hmember))
  obtain ⟨hpairwise, hafter⟩ := ticks_spaced h.defined times
  constructor
  · exact hpairwise.imp_of_mem fun _ hlater hspaced =>
      h.apart_of_spaced (.inl (hshort _ hlater _)) hspaced
  · intro last hlast tick hmember
    exact h.apart_of_spaced (.inl (hshort tick hmember last)) (hafter last hlast tick hmember)

end VehicleBus.Sampling.Clock
