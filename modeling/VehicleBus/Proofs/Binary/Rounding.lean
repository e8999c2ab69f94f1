import Mathlib.Tactic.Ring
import VehicleBus.Binary.Arithmetic

/-!
# What rounding keeps

`Format.round` writes a quotient of units as a significand that is doubled several
times.  The significand is the nearest integer to a quotient with a larger
denominator, so everything follows from two facts: how far the nearest integer is
away (`two_mul_nearest_le`, `two_mul_le_nearest`), and what a word stands for that is
put together of a significand and a number of doublings (`Format.units_compose`).

Hence a magnitude that fits is kept (`Format.round_exact`), of any other the rounded one
is off by at most half of the last place (`Format.round_error`), and of two magnitudes the
larger one is not rounded to less (`Format.units_round_mono`).
-/

namespace VehicleBus.Binary

/-! ## Nearest integers -/

/-- A quotient that is whole is its own nearest number. -/
theorem nearest_mul (n : Nat) {den : Nat} (hden : 0 < den) : nearest (n * den) den = n := by
  simp [nearest, Nat.mul_div_cancel _ hden, hden]

/-- Rounding never goes below the whole part of a quotient. -/
theorem div_le_nearest (num den : Nat) : num / den ≤ nearest num den := by
  unfold nearest
  dsimp only
  split
  · exact Nat.le_refl _
  · split <;> omega

/-- Rounding goes up by one at most. -/
theorem nearest_le_div_succ (num den : Nat) : nearest num den ≤ num / den + 1 := by
  unfold nearest
  dsimp only
  split
  · omega
  · split <;> omega

/-- The nearest integer is at most one half too large. -/
theorem two_mul_nearest_le (num : Nat) {den : Nat} (hden : 0 < den) :
    2 * (nearest num den * den) ≤ 2 * num + den := by
  have hsplit : num / den * den + num % den = num := Nat.div_add_mod' num den
  have hrest : num % den < den := Nat.mod_lt num hden
  unfold nearest
  dsimp only
  split
  · omega
  · split
    · rw [Nat.add_mul, Nat.one_mul]
      omega
    · have hparity : num / den % 2 = 0 ∨ num / den % 2 = 1 := Nat.mod_two_eq_zero_or_one _
      rcases hparity with heven | hodd
      · rw [heven, Nat.add_zero]
        omega
      · rw [hodd, Nat.add_mul, Nat.one_mul]
        omega

/-- The nearest integer is at most one half too small. -/
theorem two_mul_le_nearest (num : Nat) {den : Nat} (hden : 0 < den) :
    2 * num ≤ 2 * (nearest num den * den) + den := by
  have hsplit : num / den * den + num % den = num := Nat.div_add_mod' num den
  have hrest : num % den < den := Nat.mod_lt num hden
  unfold nearest
  dsimp only
  split
  · omega
  · split
    · rw [Nat.add_mul, Nat.one_mul]
      omega
    · rw [Nat.add_mul]
      omega

/-- Nearest integers keep the order: if they did not, the quotients would be a whole apart
in the wrong direction. -/
theorem nearest_mono {m n den : Nat} (h : m ≤ n) (hden : 0 < den) :
    nearest m den ≤ nearest n den := by
  rcases Nat.eq_or_lt_of_le h with rfl | hlt
  · exact Nat.le_refl _
  · have hupper := two_mul_nearest_le m hden
    have hlower := two_mul_le_nearest n hden
    apply Nat.le_of_not_lt
    intro hgreater
    have hapart : (nearest n den + 1) * den ≤ nearest m den * den := Nat.mul_le_mul_right _ hgreater
    rw [Nat.add_mul, Nat.one_mul] at hapart
    omega

namespace Format

variable (f : Format)

/-! ## Words and their units -/

/-- What is put together of a significand and a number of doublings stands for just
that, unless the significand is short and doubled.  The least significand that is too
long is carried. -/
theorem units_compose {s e : Nat} (hs : s ≤ 2 * 2 ^ f.fractionBits)
    (he : 2 ^ f.fractionBits ≤ s ∨ e = 0) :
    f.units (e * 2 ^ f.fractionBits + s) = s * 2 ^ e := by
  have hpos : 0 < 2 ^ f.fractionBits := Nat.two_pow_pos _
  have hfield : (e * 2 ^ f.fractionBits + s) / 2 ^ f.fractionBits = e + s / 2 ^ f.fractionBits := by
    rw [Nat.add_comm, Nat.add_mul_div_right _ _ hpos, Nat.add_comm]
  simp only [units, significand, shift, Nat.pow_eq, hfield]
  generalize 2 ^ f.fractionBits = unit at *
  by_cases hcarry : s = 2 * unit
  · -- The carry: the field counts one more doubling, and the significand is halved.
    have hshift : e + s / unit - 1 = e + 1 := by
      rw [hcarry, Nat.mul_div_cancel _ hpos]
      omega
    rw [hshift, hcarry, Nat.add_mul, Nat.one_mul]
    have hhalf : e * unit + 2 * unit - (e * unit + unit) = unit := by omega
    rw [hhalf, Nat.pow_succ]
    ring
  · by_cases hshort : s < unit
    · have hzero : e = 0 := by omega
      simp [hzero, Nat.div_eq_of_lt hshort]
    · have hquotient : s / unit = 1 := Nat.div_eq_of_lt_le (by omega) (by omega)
      rw [hquotient, Nat.add_sub_cancel, Nat.add_sub_cancel_left]

/-- A significand is at most one bit wider than the fraction. -/
theorem significand_lt (word : Nat) : f.significand word < 2 * 2 ^ f.fractionBits := by
  have hpos : 0 < 2 ^ f.fractionBits := Nat.two_pow_pos _
  have hsplit := Nat.div_add_mod' word (2 ^ f.fractionBits)
  have hrest := Nat.mod_lt word hpos
  simp only [significand, shift, Nat.pow_eq]
  generalize 2 ^ f.fractionBits = unit at *
  cases hfield : word / unit with
  | zero =>
      rw [hfield] at hsplit
      omega
  | succ field =>
      rw [hfield, Nat.add_mul, Nat.one_mul] at hsplit
      rw [Nat.add_sub_cancel]
      omega

/-- A finite word leaves its exponent field short of the largest. -/
theorem shift_lt {word : Nat} (hbits : 2 < 2 ^ f.exponentBits) (h : word < f.infinity) :
    f.shift word + 2 < 2 ^ f.exponentBits := by
  have hfield : word / 2 ^ f.fractionBits < 2 ^ f.exponentBits - 1 := Nat.div_lt_of_lt_mul (by
    rw [Nat.mul_comm]
    exact h)
  simp only [shift, Nat.pow_eq]
  generalize word / 2 ^ f.fractionBits = field at *
  omega

/-- The bits of infinity leave the sign bit free. -/
theorem infinity_lt_signBit : f.infinity < f.signBit := by
  have hpos : 0 < 2 ^ f.fractionBits := Nat.two_pow_pos _
  have htop : 2 ^ f.exponentBits - 1 < 2 ^ f.exponentBits := Nat.sub_lt (Nat.two_pow_pos _) Nat.one_pos
  simp only [infinity, signBit, Nat.pow_eq]
  rw [Nat.add_comm, Nat.pow_add]
  exact Nat.mul_lt_mul_of_pos_right htop hpos

/-- A finite magnitude word is decoded with its sign. -/
theorem datum_signed {magnitude : Nat} (h : magnitude < f.infinity) (negative : Bool) :
    f.datum (f.signed negative magnitude) = .finite negative (f.units magnitude) := by
  have hbelow : magnitude < f.signBit := Nat.lt_trans h f.infinity_lt_signBit
  have hmod : f.signed negative magnitude % f.signBit = magnitude := by
    cases negative with
    | false => exact Nat.mod_eq_of_lt hbelow
    | true =>
        show (f.signBit + magnitude) % f.signBit = magnitude
        rw [Nat.add_mod_left, Nat.mod_eq_of_lt hbelow]
  have hsign : decide (f.signBit ≤ f.signed negative magnitude) = negative := by
    cases negative with
    | false => simpa [signed] using hbelow
    | true => simp [signed]
  simp only [datum, hmod, hsign, if_pos h]

/-! ## Rounding -/

/-- How often the rounded significand of a quotient is doubled. -/
def doublings (num den : Nat) : Nat := (num / den).log2 - f.fractionBits

/-- The significand of a quotient, rounded. -/
def rounded (num den : Nat) : Nat := nearest num (den * 2 ^ f.doublings num den)

theorem round_eq (num den : Nat) :
    f.round num den =
      min (f.doublings num den * 2 ^ f.fractionBits + f.rounded num den) f.infinity := rfl

variable {num den : Nat}

/-- The significand before rounding is not too long. -/
theorem lt_doublings (hden : 0 < den) :
    num < 2 * 2 ^ f.fractionBits * (den * 2 ^ f.doublings num den) := by
  have hlog : num / den < 2 ^ ((num / den).log2 + 1) := Nat.lt_log2_self
  have hexponent : 2 ^ ((num / den).log2 + 1) ≤ 2 ^ (f.fractionBits + 1 + f.doublings num den) :=
    Nat.pow_le_pow_right Nat.two_pos (by unfold doublings; omega)
  have hquotient := (Nat.div_lt_iff_lt_mul hden).mp (Nat.lt_of_lt_of_le hlog hexponent)
  calc num < 2 ^ (f.fractionBits + 1 + f.doublings num den) * den := hquotient
    _ = 2 * 2 ^ f.fractionBits * (den * 2 ^ f.doublings num den) := by
        rw [Nat.pow_add, Nat.pow_succ]
        ring

/-- If there are doublings, it is not too short either. -/
theorem doublings_le (hden : 0 < den) (hpos : 0 < f.doublings num den) :
    2 ^ f.fractionBits * (den * 2 ^ f.doublings num den) ≤ num := by
  have hne : num / den ≠ 0 := by
    intro hzero
    simp [doublings, hzero] at hpos
  have hlog : 2 ^ (f.fractionBits + f.doublings num den) ≤ num / den := by
    have hexponent : f.fractionBits + f.doublings num den = (num / den).log2 := by
      unfold doublings at hpos ⊢
      omega
    rw [hexponent]
    exact Nat.log2_self_le hne
  calc 2 ^ f.fractionBits * (den * 2 ^ f.doublings num den)
      = 2 ^ (f.fractionBits + f.doublings num den) * den := by
        rw [Nat.pow_add]
        ring
    _ ≤ num := (Nat.le_div_iff_mul_le hden).mp hlog

/-- Rounding may carry a significand into the next binade, but no further. -/
theorem rounded_le (hden : 0 < den) : f.rounded num den ≤ 2 * 2 ^ f.fractionBits := by
  have hpos : 0 < den * 2 ^ f.doublings num den := Nat.mul_pos hden (Nat.two_pow_pos _)
  have hquotient : num / (den * 2 ^ f.doublings num den) < 2 * 2 ^ f.fractionBits :=
    (Nat.div_lt_iff_lt_mul hpos).mpr (f.lt_doublings hden)
  exact Nat.le_trans (nearest_le_div_succ _ _) hquotient

/-- A rounded significand that is doubled has its leading bit. -/
theorem le_rounded (hden : 0 < den) :
    2 ^ f.fractionBits ≤ f.rounded num den ∨ f.doublings num den = 0 := by
  rcases Nat.eq_zero_or_pos (f.doublings num den) with hzero | hpos
  · exact .inr hzero
  · left
    have hpositive : 0 < den * 2 ^ f.doublings num den := Nat.mul_pos hden (Nat.two_pow_pos _)
    have hquotient := (Nat.le_div_iff_mul_le hpositive).mpr (f.doublings_le hden hpos)
    exact Nat.le_trans hquotient (div_le_nearest _ _)

/-- **What a rounded word stands for.** -/
theorem units_round (hden : 0 < den) (hfinite : f.round num den < f.infinity) :
    f.units (f.round num den) = f.rounded num den * 2 ^ f.doublings num den := by
  rw [round_eq] at hfinite ⊢
  rw [Nat.min_eq_left (by omega)]
  exact f.units_compose (f.rounded_le hden) (f.le_rounded hden)

/-- A magnitude that fits is kept. -/
theorem round_exact {s e : Nat} (hs : s < 2 * 2 ^ f.fractionBits)
    (he : 2 ^ f.fractionBits ≤ s ∨ e = 0) (hden : 0 < den) :
    f.round (s * 2 ^ e * den) den = min (e * 2 ^ f.fractionBits + s) f.infinity := by
  have hdoublings : f.doublings (s * 2 ^ e * den) den = e := by
    rw [doublings, Nat.mul_div_cancel _ hden]
    rcases Nat.eq_zero_or_pos s with hzero | hpos
    · have hunit : 0 < 2 ^ f.fractionBits := Nat.two_pow_pos _
      have he' : e = 0 := by omega
      simp [hzero, he']
    · have hlog : (s * 2 ^ e).log2 = s.log2 + e := by
        rw [Nat.log2_eq_iff (Nat.mul_ne_zero (by omega) (Nat.two_pow_pos e).ne')]
        refine ⟨?_, ?_⟩
        · rw [Nat.pow_add]
          exact Nat.mul_le_mul_right _ (Nat.log2_self_le (by omega))
        · rw [Nat.add_right_comm, Nat.pow_add]
          exact Nat.mul_lt_mul_of_pos_right Nat.lt_log2_self (Nat.two_pow_pos e)
      have hbelow : s.log2 < f.fractionBits + 1 :=
        (Nat.log2_lt (by omega)).mpr (by rw [Nat.pow_succ]; omega)
      rcases he with hlong | he'
      · have habove : f.fractionBits ≤ s.log2 := (Nat.le_log2 (by omega)).mpr hlong
        omega
      · omega
  rw [round_eq, rounded, hdoublings, show s * 2 ^ e * den = s * (den * 2 ^ e) by ring,
    nearest_mul _ (Nat.mul_pos hden (Nat.two_pow_pos e))]

/-- A word is put together of its doublings and its significand, which is full unless
there are no doublings. -/
theorem compose_word (word : Nat) :
    f.shift word * 2 ^ f.fractionBits + f.significand word = word ∧
      (2 ^ f.fractionBits ≤ f.significand word ∨ f.shift word = 0) := by
  have hunit : 0 < 2 ^ f.fractionBits := Nat.two_pow_pos _
  have hsplit := Nat.div_add_mod' word (2 ^ f.fractionBits)
  simp only [significand, shift, Nat.pow_eq]
  cases hfield : word / 2 ^ f.fractionBits with
  | zero => simp
  | succ field =>
      rw [hfield, Nat.add_mul, Nat.one_mul] at hsplit
      rw [Nat.add_sub_cancel]
      omega

/-- The magnitude of a finite word is rounded to that word. -/
theorem round_units {word : Nat} (h : word < f.infinity) : f.round (f.units word) 1 = word := by
  obtain ⟨hword, hfull⟩ := f.compose_word word
  have hround := f.round_exact (f.significand_lt word) hfull Nat.one_pos
  rw [Nat.mul_one, hword, Nat.min_eq_left h.le] at hround
  exact hround

/-- A short number times a power of two fits, if its significand can be filled up and
the power is within the range of the format. -/
theorem round_dyadic {q j : Nat} (hq : q < 2 * 2 ^ f.fractionBits) (hfill : f.fractionBits ≤ j)
    (hrange : j + 2 < 2 ^ f.exponentBits) (hden : 0 < den) :
    f.round (q * 2 ^ j * den) den < f.infinity ∧ f.units (f.round (q * 2 ^ j * den) den) = q * 2 ^ j := by
  -- The significand filled up, or zero.
  obtain ⟨s, e, hs, he, hej, hvalue⟩ : ∃ s e, s < 2 * 2 ^ f.fractionBits ∧
      (2 ^ f.fractionBits ≤ s ∨ e = 0) ∧ e ≤ j ∧ s * 2 ^ e = q * 2 ^ j := by
    rcases Nat.eq_zero_or_pos q with rfl | hpos
    · exact ⟨0, 0, hq, .inr rfl, Nat.zero_le j, by simp⟩
    · have hlog : q.log2 ≤ f.fractionBits :=
        Nat.le_of_lt_succ ((Nat.log2_lt (by omega)).mpr (by rw [Nat.pow_succ]; omega))
      refine ⟨q * 2 ^ (f.fractionBits - q.log2), j - (f.fractionBits - q.log2), ?_, .inl ?_,
        Nat.sub_le _ _, ?_⟩
      · have hpower : 2 * 2 ^ f.fractionBits = 2 ^ (q.log2 + 1) * 2 ^ (f.fractionBits - q.log2) := by
          rw [← Nat.pow_add, ← Nat.pow_succ']
          congr 1
          omega
        rw [hpower]
        exact Nat.mul_lt_mul_of_pos_right Nat.lt_log2_self (Nat.two_pow_pos _)
      · have hpower : 2 ^ f.fractionBits = 2 ^ q.log2 * 2 ^ (f.fractionBits - q.log2) := by
          rw [← Nat.pow_add]
          congr 1
          omega
        rw [hpower]
        exact Nat.mul_le_mul_right _ (Nat.log2_self_le (by omega))
      · rw [Nat.mul_assoc, ← Nat.pow_add]
        congr 2
        omega
  have hfits : e * 2 ^ f.fractionBits + s < f.infinity := by
    have hfield : e + 2 ≤ 2 ^ f.exponentBits - 1 := by omega
    calc e * 2 ^ f.fractionBits + s < (e + 2) * 2 ^ f.fractionBits := by
          rw [Nat.add_mul]
          omega
      _ ≤ f.infinity := Nat.mul_le_mul_right _ hfield
  rw [← hvalue, f.round_exact hs he hden, Nat.min_eq_left (Nat.le_of_lt hfits)]
  exact ⟨hfits, f.units_compose (Nat.le_of_lt hs) he⟩

/-- A quotient within the range of the format stays finite. -/
theorem round_lt_infinity {k : Nat} (hden : 0 < den) (hnum : num < 2 ^ k * den)
    (hk : f.fractionBits < k) (hrange : k + 2 < f.fractionBits + 2 ^ f.exponentBits) :
    f.round num den < f.infinity := by
  have hlog : (num / den).log2 < k := by
    rcases Nat.eq_zero_or_pos (num / den) with hzero | hpos
    · rw [hzero, Nat.log2_zero]
      omega
    · exact (Nat.log2_lt (by omega)).mpr ((Nat.div_lt_iff_lt_mul hden).mpr hnum)
  have hfield : f.doublings num den + 2 < 2 ^ f.exponentBits - 1 := by
    unfold doublings
    omega
  have hword : f.doublings num den * 2 ^ f.fractionBits + f.rounded num den < f.infinity := by
    calc f.doublings num den * 2 ^ f.fractionBits + f.rounded num den
        ≤ (f.doublings num den + 2) * 2 ^ f.fractionBits := by
          rw [Nat.add_mul]
          exact Nat.add_le_add_left (f.rounded_le hden) _
      _ < f.infinity := Nat.mul_lt_mul_of_pos_right hfield (Nat.two_pow_pos _)
  rw [round_eq, Nat.min_eq_left (Nat.le_of_lt hword)]
  exact hword

/-- **Rounding is off by at most half of the last place**, for a quotient whose
significand is full. -/
theorem round_error (hden : 0 < den) (hfinite : f.round num den < f.infinity)
    (hfull : 2 ^ f.fractionBits * den ≤ num) :
    2 * 2 ^ f.fractionBits * (f.units (f.round num den) * den) ≤
        (2 * 2 ^ f.fractionBits + 1) * num ∧
      2 * 2 ^ f.fractionBits * num ≤
        2 * 2 ^ f.fractionBits * (f.units (f.round num den) * den) + num := by
  have hlast : 2 ^ f.fractionBits * (den * 2 ^ f.doublings num den) ≤ num := by
    rcases Nat.eq_zero_or_pos (f.doublings num den) with hzero | hpos
    · rw [hzero, Nat.pow_zero, Nat.mul_one]
      exact hfull
    · exact f.doublings_le hden hpos
  have hunits : f.units (f.round num den) * den =
      f.rounded num den * (den * 2 ^ f.doublings num den) := by
    rw [f.units_round hden hfinite]
    ring
  have hpos : 0 < den * 2 ^ f.doublings num den := Nat.mul_pos hden (Nat.two_pow_pos _)
  have hupper := two_mul_nearest_le num hpos
  have hlower := two_mul_le_nearest num hpos
  rw [hunits, rounded]
  generalize den * 2 ^ f.doublings num den = last at *
  generalize 2 ^ f.fractionBits = unit at *
  generalize nearest num last * last = value at *
  constructor
  · calc 2 * unit * value = unit * (2 * value) := by ring
      _ ≤ unit * (2 * num + last) := Nat.mul_le_mul_left _ hupper
      _ = 2 * unit * num + unit * last := by ring
      _ ≤ (2 * unit + 1) * num := by
          rw [Nat.add_mul, Nat.one_mul]
          exact Nat.add_le_add_left hlast _
  · calc 2 * unit * num = unit * (2 * num) := by ring
      _ ≤ unit * (2 * value + last) := Nat.mul_le_mul_left _ hlower
      _ = 2 * unit * value + unit * last := by ring
      _ ≤ 2 * unit * value + num := Nat.add_le_add_left hlast _

/-- The significand of a larger quotient is doubled no less often. -/
theorem doublings_mono {m n : Nat} (h : m ≤ n) (den : Nat) :
    f.doublings m den ≤ f.doublings n den := by
  have hlog : (m / den).log2 ≤ (n / den).log2 := by
    rcases Nat.eq_zero_or_pos (m / den) with hzero | hpos
    · rw [hzero, Nat.log2_zero]
      exact Nat.zero_le _
    · have hquotient : m / den ≤ n / den := Nat.div_le_div_right h
      rw [Nat.le_log2 (by omega)]
      exact Nat.le_trans (Nat.log2_self_le (by omega)) hquotient
  exact Nat.sub_le_sub_right hlog _

/-- **Rounding keeps the order.**  With as many doublings the significands are compared; a
magnitude with more doublings is beyond all those with fewer. -/
theorem units_round_mono {m n : Nat} (h : m ≤ n) (hden : 0 < den)
    (hm : f.round m den < f.infinity) (hn : f.round n den < f.infinity) :
    f.units (f.round m den) ≤ f.units (f.round n den) := by
  rw [f.units_round hden hm, f.units_round hden hn]
  rcases Nat.eq_or_lt_of_le (f.doublings_mono h den) with hsame | hmore
  · rw [rounded, rounded, hsame]
    exact Nat.mul_le_mul_right _ (nearest_mono h (Nat.mul_pos hden (Nat.two_pow_pos _)))
  · have hfull : 2 ^ f.fractionBits ≤ f.rounded n den :=
      (f.le_rounded hden).resolve_right (by omega)
    calc f.rounded m den * 2 ^ f.doublings m den
        ≤ 2 * 2 ^ f.fractionBits * 2 ^ f.doublings m den :=
          Nat.mul_le_mul_right _ (f.rounded_le hden)
      _ = 2 ^ f.fractionBits * 2 ^ (f.doublings m den + 1) := by ring
      _ ≤ 2 ^ f.fractionBits * 2 ^ f.doublings n den :=
          Nat.mul_le_mul_left _ (Nat.pow_le_pow_right Nat.two_pos hmore)
      _ ≤ f.rounded n den * 2 ^ f.doublings n den := Nat.mul_le_mul_right _ hfull

end Format

end VehicleBus.Binary
