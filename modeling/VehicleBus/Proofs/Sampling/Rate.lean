import Mathlib.Data.List.Induction
import Mathlib.Data.Rat.Floor
import VehicleBus.Proofs.Sampling.Clock

/-!
# How often a clock ticks

Ticks that are a period apart take up time: `k` more ticks need `k` more periods
(`span_le`), so an interval holds no more of them than there is room for in its length
(`countP_within_le`).

Nor is a tick held back.  A clock compares with its latest tick and with nothing else
(`lastTick_pollAll`), so a poll that does not tick comes before the period after that
tick is over (`HasPeriod.early_of_not_due`).
-/

namespace VehicleBus.Sampling.Clock

variable {clock : Clock} {period : Binary64}

/-! ## Rows of polls -/

/-- The clock after polls at some times. -/
def pollAll (clock : Clock) (times : List Time) : Clock :=
  times.foldl (fun clock now => (clock.poll now).1) clock

theorem pollAll_concat (clock : Clock) (times : List Time) (now : Time) :
    clock.pollAll (times ++ [now]) = ((clock.pollAll times).poll now).1 := List.foldl_concat _ _ _ _

theorem HasPeriod.pollAll (h : clock.HasPeriod period) (times : List Time) :
    (clock.pollAll times).HasPeriod period := by
  induction times generalizing clock with
  | nil => exact h
  | cons now rest ih => exact ih (h.poll now)

/-- The polls of a row tick as if the row were cut in two. -/
theorem ticks_append (clock : Clock) (front back : List Time) :
    clock.ticks (front ++ back) = clock.ticks front ++ (clock.pollAll front).ticks back := by
  induction front generalizing clock with
  | nil => rfl
  | cons now rest ih =>
      have hrest := ih (clock.poll now).1
      rw [List.cons_append, ticks, ticks, hrest]
      split <;> rfl

/-- **The latest tick is remembered**, and no other poll. -/
theorem lastTick_pollAll (clock : Clock) (times : List Time) :
    (clock.pollAll times).lastTick = (clock.ticks times).getLast?.or clock.lastTick := by
  induction times using List.reverseRecOn with
  | nil => rfl
  | append_singleton front now ih =>
      rw [pollAll_concat, ticks_append]
      by_cases hdue : (clock.pollAll front).due now = true
      · rw [poll_of_due hdue, ticks, if_pos hdue, ticks, List.getLast?_concat]
        rfl
      · rw [poll_of_not_due hdue, ticks, if_neg hdue, ticks, List.append_nil]
        exact ih

/-! ## Room for ticks -/

/-- So many more ticks take so many more periods. -/
theorem span_le {first : Time} {rest : List Time} (h : (first :: rest).Pairwise (Apart period)) :
    rest.length * period.toRat ≤ ((rest.getLast?.getD first).toNat : ℚ) - first.toNat := by
  induction rest generalizing first with
  | nil => simp
  | cons next rest ih =>
      obtain ⟨hfirst, hrest⟩ := List.pairwise_cons.mp h
      have hstep : period.toRat ≤ next.toNat - first.toNat := (hfirst next List.mem_cons_self).2
      have hspan := ih hrest
      rw [List.getLast?_cons, Option.getD_some, List.length_cons, Nat.cast_succ, add_one_mul]
      linarith

/-- An interval holds one time more, at most, than there are periods in its length. -/
theorem countP_within_le {times : List Time} (h : times.Pairwise (Apart period))
    (hpos : 0 < period.toRat) (least greatest : ℚ) :
    times.countP (fun time => decide (least ≤ time.toNat ∧ time.toNat ≤ greatest)) ≤
      ⌊(greatest - least) / period.toRat⌋₊ + 1 := by
  rw [List.countP_eq_length_filter]
  cases hwithin : times.filter fun time => decide (least ≤ time.toNat ∧ time.toNat ≤ greatest) with
  | nil => exact Nat.zero_le _
  | cons first rest =>
      have hinside : ∀ time ∈ first :: rest, least ≤ time.toNat ∧ time.toNat ≤ greatest := by
        intro time hmember
        rw [← hwithin, List.mem_filter] at hmember
        exact of_decide_eq_true hmember.2
      have hlast : rest.getLast?.getD first ∈ first :: rest :=
        List.mem_of_getLast? List.getLast?_cons
      have hspan := span_le (hwithin ▸ h.filter _)
      have hfirst := (hinside first List.mem_cons_self).1
      have hend := (hinside _ hlast).2
      rw [List.length_cons, Nat.add_le_add_iff_right]
      apply Nat.le_floor
      rw [le_div_iff₀ hpos]
      linarith

/-! ## No tick is held back -/

/-- A poll that does not tick comes before the period after the last tick is over. -/
theorem HasPeriod.early_of_not_due (h : clock.HasPeriod period) {last now : Time}
    (hlast : clock.lastTick = some last) (hshort : now.toNat < 2 ^ 53)
    (hdue : ¬ clock.due now = true) : (now.toNat : ℚ) < last.toNat + period.toRat := by
  have hmeasured : ¬ Spaced period last now := by
    intro hspaced
    apply hdue
    rw [due, h.defined, hlast]
    exact hspaced
  obtain ⟨hfinite, helapsed⟩ :=
    Binary64.toRat_ofNat (Nat.lt_of_le_of_lt (Nat.sub_le now.toNat last.toNat) hshort)
  rw [Spaced, Time.since, Binary64.atMost_iff h.finite hfinite, helapsed, not_le] at hmeasured
  have hcut : (now.toNat : ℚ) ≤ last.toNat + (now.toNat - last.toNat : Nat) := by
    rw [← Nat.cast_add, Nat.cast_le]
    omega
  linarith

/-- **A clock ticks at its rate.**  Let a new clock with a positive frequency be polled at
times below 53 bits, in any order.  Its ticks are at later and later times; any `k + 1` of
them span at least `k` periods; and an interval holds at most one tick more than there are
whole periods in it.  A poll that does not tick leaves the clock as it was, and there was
a tick before it that is not a period ago. -/
theorem ticks_at_rate {clock : Clock} (hnew : clock.lastTick = none)
    (hfinite : clock.frequency.isFinite = true) (hpositive : clock.frequency.isPositive = true)
    {times : List Time} (hbound : ∀ now ∈ times, now.toNat < 2 ^ 53) :
    ∃ period, clock.HasPeriod period ∧
      (clock.ticks times).Pairwise (· < ·) ∧
      (∀ (chosen : List Time) (first last : Time) (k : Nat),
        chosen.Sublist (clock.ticks times) → chosen.length = k + 1 →
        chosen.head? = some first → chosen.getLast? = some last →
        k * period.toRat ≤ (last.toNat : ℚ) - first.toNat) ∧
      (∀ least greatest : ℚ,
        (clock.ticks times).countP
            (fun tick => decide (least ≤ tick.toNat ∧ tick.toNat ≤ greatest)) ≤
          ⌊(greatest - least) / period.toRat⌋₊ + 1) ∧
      ∀ front now back, times = front ++ now :: back →
        ((clock.pollAll front).poll now).2 = false →
        ((clock.pollAll front).poll now).1 = clock.pollAll front ∧
          ∃ last, (clock.ticks front).getLast? = some last ∧
            (now.toNat : ℚ) < last.toNat + period.toRat := by
  obtain ⟨period, hperiod⟩ := exists_hasPeriod hfinite hpositive
  have hticks : (clock.ticks times).Pairwise (Apart period) := (hperiod.ticks_apart hbound).1
  refine ⟨period, hperiod, hticks.imp fun h => h.1, ?_,
    countP_within_le hticks hperiod.pos, ?_⟩
  · intro chosen first last k hchosen hlength hfirst hlast
    obtain ⟨rest, rfl⟩ := List.head?_eq_some_iff.mp hfirst
    have hspan := span_le (hticks.sublist hchosen)
    rw [List.getLast?_cons, Option.some_inj] at hlast
    rw [List.length_cons, Nat.add_right_cancel_iff] at hlength
    rwa [hlast, hlength] at hspan
  · intro front now back hsplit hquiet
    have hdue : ¬ (clock.pollAll front).due now = true := by
      rw [← poll_snd, hquiet]
      exact Bool.false_ne_true
    have hlast := lastTick_pollAll clock front
    rw [hnew, Option.or_none] at hlast
    refine ⟨poll_of_not_due hdue, ?_⟩
    -- The first poll would have ticked.
    cases hlatest : (clock.ticks front).getLast? with
    | none =>
        rw [hlatest] at hlast
        exact absurd (due_of_unticked hlast now) hdue
    | some last =>
        rw [hlatest] at hlast
        have hshort : now.toNat < 2 ^ 53 := hbound now (by simp [hsplit])
        exact ⟨last, rfl, (hperiod.pollAll front).early_of_not_due hlast hshort hdue⟩

/-- Nine polls at ten ticks a second, two of them at times that were passed before. -/
theorem ticks_at_rate_ten_hertz :
    let clock := ofFrequency ⟨0x41200000⟩
    let times : List Time := [20, 119, 120, 60, 260, 120, 359, 360, 460]
    clock.lastTick = none ∧ clock.frequency.isFinite = true ∧
      clock.frequency.isPositive = true ∧ (∀ now ∈ times, now.toNat < 2 ^ 53) ∧
      clock.ticks times = [20, 120, 260, 360, 460] ∧
      ((clock.pollAll [20, 119, 120]).poll 60).2 = false ∧
      ∃ period, clock.HasPeriod period ∧ 3 * period.toRat ≤ 460 - 20 ∧
        4 ≤ ⌊(460 - 120) / period.toRat⌋₊ + 1 ∧ 60 < 120 + period.toRat := by
  intro clock times
  have hnew : clock.lastTick = none := rfl
  have hbound : ∀ now ∈ times, now.toNat < 2 ^ 53 := by simp [times]
  have hticks : clock.ticks times = [20, 120, 260, 360, 460] := by decide +kernel
  have hquiet : ((clock.pollAll [20, 119, 120]).poll 60).2 = false := by decide +kernel
  have hlatest : (clock.ticks [20, 119, 120]).getLast? = some 120 := by decide +kernel
  obtain ⟨period, hperiod, -, hspan, hcount, hearly⟩ :=
    ticks_at_rate hnew (by decide) (by decide) hbound
  refine ⟨hnew, by decide, by decide, hbound, hticks, hquiet, period, hperiod, ?_, ?_, ?_⟩
  · have hchosen : List.Sublist [20, 120, 360, 460] (clock.ticks times) := by
      rw [hticks]
      decide
    simpa using hspan _ 20 460 3 hchosen rfl rfl rfl
  · have hfour := hcount 120 460
    rw [hticks] at hfour
    norm_num at hfour
    norm_num
    exact hfour
  · obtain ⟨-, last, hlast, hlt⟩ := hearly [20, 119, 120] 60 _ rfl hquiet
    rw [hlatest, Option.some_inj] at hlast
    subst hlast
    simpa using hlt

end VehicleBus.Sampling.Clock
