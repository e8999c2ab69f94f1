import VehicleBus.Proofs.Binary.Value
import VehicleBus.Proofs.Decimal.Layout

/-!
# Whole numbers in decimal

A word whose number is whole and has no more digits than its significand lies so close to
no other whole number that it would be read back from it.  So the shortest decimal of the
word is the number itself (`shortest_whole`), and in documents it is written with all its
digits, a point and a zero (`Layout.toList_render_whole`).
-/

namespace VehicleBus

open Binary

/-- The parts of a whole number with a point and a zero. -/
def Json.NumberText.ofWhole (negative : Bool) (n : Nat) : NumberText where
  negative := negative
  whole := Nat.toDigits 10 n
  fraction := some ['0']
  exponent := none

namespace Decimal

/-! ## Numerals -/

theorem digitCount_pos (n : Nat) : 0 < digitCount n := List.length_pos_iff.mpr Nat.toDigits_ne_nil

/-- A number has at most some digits exactly if it is below that power of ten. -/
theorem digitCount_le_iff {n k : Nat} (hk : 0 < k) : digitCount n ≤ k ↔ n < 10 ^ k :=
  Nat.length_toDigits_le_iff (by decide) hk

theorem digitCount_mono {n m : Nat} (h : n ≤ m) : digitCount n ≤ digitCount m :=
  (digitCount_le_iff (digitCount_pos m)).mpr
    (Nat.lt_of_le_of_lt h ((digitCount_le_iff (digitCount_pos m)).mp (Nat.le_refl _)))

/-- Multiplying by a power of ten puts zeros behind the digits. -/
theorem toDigits_mul_pow {n : Nat} (hn : 0 < n) (e : Nat) :
    Nat.toDigits 10 (n * 10 ^ e) = Nat.toDigits 10 n ++ List.replicate e '0' := by
  induction e with
  | zero => simp
  | succ e ih =>
      have hpos : 0 < n * 10 ^ e := Nat.mul_pos hn (Nat.pow_pos (by decide))
      have happend := Nat.toDigits_append_toDigits (d := 0) (by decide : 1 < 10) hpos (by decide)
      have hnext : n * 10 ^ (e + 1) = 10 * (n * 10 ^ e) + 0 := by
        rw [Nat.pow_succ, ← Nat.mul_assoc, Nat.mul_comm 10]
        rfl
      rw [hnext, ← happend, ih, List.replicate_succ', List.append_assoc]
      rfl

/-- Trailing zeros are counted by the place of the first digit. -/
theorem Numeral.ofScaled_mul_pow {n : Nat} (hn : 0 < n) (e : Nat) :
    Numeral.ofScaled (n * 10 ^ e) 0 = Numeral.ofScaled n e := by
  have hdigits := toDigits_mul_pow hn e
  have hzeros : ∀ c ∈ List.replicate e '0', (c == '0') = true := by
    intro c hc
    rw [List.eq_of_mem_replicate hc]
    rfl
  simp only [Numeral.ofScaled, hdigits, List.reverse_append, List.reverse_replicate,
    List.dropWhile_append_of_pos hzeros, List.length_append, List.length_replicate,
    Numeral.mk.injEq, true_and]
  omega

/-- The numeral of a whole number has its digits without the zeros behind them. -/
theorem Numeral.exists_ofScaled (n : Nat) : ∃ digits zeros,
    Numeral.ofScaled n 0 = ⟨digits, (digitCount n - 1 : Nat)⟩ ∧
      digits ++ List.replicate zeros '0' = Nat.toDigits 10 n := by
  have hsplit := List.rdropWhile_append_rtakeWhile (p := (· == '0')) (l := Nat.toDigits 10 n)
  have hzeros : (Nat.toDigits 10 n).rtakeWhile (· == '0') =
      List.replicate ((Nat.toDigits 10 n).rtakeWhile (· == '0')).length '0' :=
    List.eq_replicate_iff.mpr ⟨rfl, fun c hc => by simpa using List.mem_rtakeWhile_imp hc⟩
  have hlead : (0 : Int) + (Nat.toDigits 10 n).length - 1 = (digitCount n - 1 : Nat) := by
    have hcount := digitCount_pos n
    rw [digitCount] at hcount ⊢
    omega
  refine ⟨(Nat.toDigits 10 n).rdropWhile (· == '0'), _, ?_, hzeros ▸ hsplit⟩
  rw [Numeral.ofScaled, hlead]
  rfl

/-! ## The shortest decimal -/

section Shortest

variable {f : Format} {w n : Nat}

/-- The last place of the significand does not stand above one. -/
theorem gap_le_one (hn : n < 2 * 2 ^ f.fractionBits) (hunits : f.units w = n * f.one) :
    2 ^ f.shift w ≤ f.one := by
  refine Nat.pow_le_pow_right Nat.two_pos ?_
  by_contra hshift
  have hlow : 2 ^ f.fractionBits ≤ f.significand w := by
    rcases (f.compose_word w).2 with hfull | hzero
    · exact hfull
    · omega
  have hlarge : 2 * f.one ≤ 2 ^ f.shift w := by
    rw [Format.one_eq, ← Nat.pow_succ']
    exact Nat.pow_le_pow_right Nat.two_pos (by omega)
  have hover : 2 * 2 ^ f.fractionBits * f.one ≤ f.units w := by
    calc 2 * 2 ^ f.fractionBits * f.one = 2 ^ f.fractionBits * (2 * f.one) := by
          rw [Nat.mul_comm 2, Nat.mul_assoc]
      _ ≤ f.significand w * 2 ^ f.shift w := Nat.mul_le_mul hlow hlarge
  rw [hunits] at hover
  exact absurd (Nat.le_of_mul_le_mul_right hover f.one_pos) (by omega)

/-- The only multiple of a power of ten that reads back is the number itself. -/
theorem readsBack_whole_iff (hpos : 0 < n) (hn : n < 2 * 2 ^ f.fractionBits)
    (hunits : f.units w = n * f.one) (c e : Nat) :
    readsBack f w c (e : Int) = true ↔ c * 10 ^ e = n := by
  have hgap := gap_le_one hn hunits
  have hgapPos : 0 < 2 ^ f.shift w := Nat.two_pow_pos _
  have hone := f.one_pos
  have hscaled : ∀ amount, compareQuarters f c (e : Int) amount =
      compare (4 * (c * 10 ^ e * f.one)) amount := by
    intro amount
    rw [compareQuarters, Int.toNat_natCast, Int.toNat_neg_natCast, Nat.pow_eq, Nat.pow_eq,
      Nat.pow_zero, Nat.mul_one, Nat.mul_left_comm]
  have hatLeast : n * f.one ≥ f.one := Nat.le_mul_of_pos_left _ hpos
  simp only [readsBack, hscaled, hunits, Nat.pow_eq, Bool.and_eq_true, Bool.or_eq_true, beq_iff_eq,
    Nat.compare_eq_gt, Nat.compare_eq_lt, Nat.compare_eq_eq]
  generalize c * 10 ^ e = m
  generalize 2 ^ f.shift w = gap at *
  constructor
  · rintro ⟨hlow, hhigh⟩
    have hbelow : 4 * (n * f.one) ≤ 4 * (m * f.one) + 2 * gap := by
      split at hlow <;> omega
    have habove : 4 * (m * f.one) ≤ 4 * (n * f.one) + 2 * gap := by omega
    rcases Nat.lt_trichotomy m n with hless | heq | hmore
    · have hstep : m * f.one + f.one ≤ n * f.one := by
        rw [← Nat.succ_mul]
        exact Nat.mul_le_mul_right _ hless
      omega
    · exact heq
    · have hstep : n * f.one + f.one ≤ m * f.one := by
        rw [← Nat.succ_mul]
        exact Nat.mul_le_mul_right _ hmore
      omega
  · rintro rfl
    refine ⟨.inl ?_, .inl (by omega)⟩
    split <;> omega

/-- A grid offers the number if it lies on the grid, and nothing else. -/
theorem onGrid_whole (tie : Tie) (hpos : 0 < n) (hn : n < 2 * 2 ^ f.fractionBits)
    (hunits : f.units w = n * f.one) (e : Nat) :
    onGrid f tie w (e : Int) = if 10 ^ e ∣ n then some (n / 10 ^ e) else none := by
  have hbelow : f.units w * Nat.pow 10 (-(e : Int)).toNat / (f.one * Nat.pow 10 (e : Int).toNat) =
      n / 10 ^ e := by
    rw [hunits, Int.toNat_natCast, Int.toNat_neg_natCast, Nat.pow_eq, Nat.pow_eq, Nat.pow_zero,
      Nat.mul_one, Nat.mul_comm n, Nat.mul_div_mul_left _ _ f.one_pos]
  have hlow : readsBack f w (n / 10 ^ e) (e : Int) = decide (10 ^ e ∣ n) := by
    rw [Bool.eq_iff_iff, readsBack_whole_iff hpos hn hunits, decide_eq_true_eq,
      Nat.dvd_iff_div_mul_eq]
  have hhigh : readsBack f w (n / 10 ^ e + 1) (e : Int) = false := by
    rw [Bool.eq_false_iff, ne_eq, readsBack_whole_iff hpos hn hunits]
    exact Nat.ne_of_gt (Nat.lt_mul_of_div_lt (Nat.lt_succ_self _) (Nat.pow_pos (by decide)))
  simp only [onGrid, hbelow, hlow, hhigh, Bool.and_false, Bool.false_eq_true, if_false,
    decide_eq_true_eq]

/-- The magnitude of a whole value is bounded by its number of digits. -/
theorem magnitudeBound_whole (hpos : 0 < n) (hunits : f.units w = n * f.one) :
    magnitudeBound f w = digitCount n := by
  rw [magnitudeBound, hunits, if_pos (Nat.le_mul_of_pos_left _ hpos),
    Nat.mul_div_cancel _ f.one_pos]

/-- There is a grid for each digit. -/
theorem lt_digitLimit (hn : n < 2 * 2 ^ f.fractionBits) : digitCount n - 1 < digitLimit f := by
  have hle : digitCount n ≤ digitCount (Nat.pow 2 (f.fractionBits + 1)) := by
    refine digitCount_mono ?_
    rw [Nat.pow_eq, Nat.pow_succ']
    exact hn.le
  rw [digitLimit]
  omega

/-- What a grid of a whole power of ten offers is the number. -/
theorem ofScaled_of_onGrid {tie : Tie} {e coefficient : Nat} (hpos : 0 < n)
    (hn : n < 2 * 2 ^ f.fractionBits) (hunits : f.units w = n * f.one)
    (h : onGrid f tie w (e : Int) = some coefficient) :
    Numeral.ofScaled coefficient e = Numeral.ofScaled n 0 := by
  rw [onGrid_whole tie hpos hn hunits] at h
  split at h
  · rename_i hdvd
    cases h
    have hquotient : 0 < n / 10 ^ e :=
      Nat.div_pos (Nat.le_of_dvd hpos hdvd) (Nat.pow_pos (by decide))
    rw [← Numeral.ofScaled_mul_pow hquotient, Nat.div_mul_cancel hdvd]
  · cases h

/-- **The shortest decimal of a whole number is that number.** -/
theorem shortest_whole (tie : Tie) (hpos : 0 < n) (hn : n < 2 * 2 ^ f.fractionBits)
    (hunits : f.units w = n * f.one) : shortest f tie w = Numeral.ofScaled n 0 := by
  have hdigits := digitCount_pos n
  have hexponent : ∀ extra ≤ digitCount n - 1,
      magnitudeBound f w - 1 - (extra : Nat) = ((digitCount n - 1 - extra : Nat) : Int) := by
    intro extra hextra
    rw [magnitudeBound_whole hpos hunits]
    omega
  have hlimit := List.mem_range.mpr (lt_digitLimit hn)
  -- The grid of ones always offers the number, and is never passed by.
  have hones : onGrid f tie w (magnitudeBound f w - 1 - ((digitCount n - 1 : Nat) : Int)) =
      some n := by
    rw [hexponent _ (Nat.le_refl _), Nat.sub_self, onGrid_whole tie hpos hn hunits]
    simp
  rw [shortest]
  dsimp only
  cases hfound : (List.range (digitLimit f)).findSome? fun extra =>
      (onGrid f tie w (magnitudeBound f w - 1 - (extra : Nat))).map fun coefficient =>
        Numeral.ofScaled coefficient (magnitudeBound f w - 1 - (extra : Nat)) with
  | none =>
      have hnone := List.findSome?_eq_none_iff.mp hfound _ hlimit
      rw [hones] at hnone
      cases hnone
  | some numeral =>
      obtain ⟨front, extra, back, hsplit, hoffer, hnone⟩ := List.findSome?_eq_some_iff.mp hfound
      obtain ⟨coefficient, hcoefficient, rfl⟩ := Option.map_eq_some_iff.mp hoffer
      have hextra : extra ≤ digitCount n - 1 := by
        have hsorted := List.pairwise_lt_range (n := digitLimit f)
        rw [hsplit] at hsorted hlimit
        rcases List.mem_append.mp hlimit with hfront | hrest
        · have hpassed := hnone _ hfront
          rw [hones] at hpassed
          cases hpassed
        · rcases List.mem_cons.mp hrest with heq | hback
          · exact heq.ge
          · exact ((List.pairwise_cons.mp (List.pairwise_append.mp hsorted).2.1).1 _ hback).le
      rw [hexponent extra hextra] at hcoefficient
      rw [Option.getD_some, hexponent extra hextra]
      exact ofScaled_of_onGrid hpos hn hunits hcoefficient

end Shortest

/-! ## Layout -/

namespace Layout

variable {layout : Layout} {n : Nat}

/-- A whole number is laid out with all its digits. -/
theorem parts_whole (hpositional : layout.positional (digitCount n - 1) = true)
    (hpoint : layout.pointZero = true) (negative : Bool) :
    layout.parts negative (Numeral.ofScaled n 0) = .ofWhole negative n := by
  have hcount := digitCount_pos n
  obtain ⟨digits, zeros, hscaled, hwhole⟩ := Numeral.exists_ofScaled n
  have hlength : digits.length + zeros = digitCount n := by
    rw [digitCount, ← hwhole, List.length_append, List.length_replicate]
  have hwidth : digitCount n - 1 + 1 = digitCount n := Nat.sub_add_cancel hcount
  have hzeros : digitCount n - digits.length = zeros := by omega
  have hlead : layout.positional ((digitCount n - 1 : Nat) : Int) = true := by
    rwa [Nat.cast_sub hcount]
  rw [hscaled, parts]
  dsimp only
  rw [if_pos hlead, if_neg (by omega), Int.toNat_natCast, hwidth,
    List.take_of_length_le (by omega), List.drop_of_length_le (by omega), hzeros, hwhole, hpoint]
  rfl

/-- **A word of a whole number is written with all its digits**, also a zero. -/
theorem toList_render_whole {f : Format} {word : Nat} {negative : Bool}
    (hpositional : layout.positional (digitCount n - 1) = true) (hpoint : layout.pointZero = true)
    (hn : n < 2 * 2 ^ f.fractionBits) (hdatum : f.datum word = .finite negative (n * f.one)) :
    (layout.render f word).toList = (Json.NumberText.ofWhole negative n).chars := by
  obtain ⟨hsign, hfinite, hunits⟩ := Format.datum_eq_finite hdatum
  have hbody : (if word % f.signBit = 0 then layout.write ⟨['0'], 0⟩
      else layout.write (shortest f layout.tie (word % f.signBit))) =
        layout.write (Numeral.ofScaled n 0) := by
    split
    · rename_i hzero
      have hunitsZero : n * f.one = 0 := by
        simp [← hunits, hzero, Format.units, Format.significand]
      obtain rfl : n = 0 := (Nat.mul_eq_zero.mp hunitsZero).resolve_right f.one_pos.ne'
      have hlead : layout.positional 0 = true := hpositional
      simp [write, Numeral.ofScaled, hlead, writePositional]
    · rename_i hword
      have hpos : 0 < n := by
        have hunitsPos := f.units_pos (Nat.pos_of_ne_zero hword)
        rw [hunits] at hunitsPos
        exact Nat.pos_of_mul_pos_right hunitsPos
      rw [shortest_whole layout.tie hpos hn hunits]
  rw [← parts_whole hpositional hpoint, chars_parts, render, if_neg (Nat.not_lt.mpr hfinite.le),
    if_neg hfinite.ne, decide_eq_true hfinite.le, Bool.and_true, hbody, ← hsign]
  cases negative <;> simp

end Layout

end Decimal

end VehicleBus
