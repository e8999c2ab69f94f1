import Mathlib.Algebra.Order.Field.Rat
import Mathlib.Tactic.FieldSimp
import Mathlib.Tactic.Linarith
import Mathlib.Tactic.Positivity
import VehicleBus.Binary.Binary32
import VehicleBus.Proofs.Binary.Rounding

/-!
# Numbers of words

Every finite word is a rational number, `toRat`.  Comparing words compares these
numbers, small integers and widened words keep theirs, and a quotient that is neither
too large nor too small is the number next to the exact one, with a relative error of
at most `2 ^ -53`.

Inside a format one speaks of units: `Format.Encodes` says of a word which sign and
how many units it carries.
-/

namespace VehicleBus.Binary

/-! ## Data -/

/-- The signed number of units; none for infinities and non-numbers. -/
def Datum.toInt (datum : Datum) : Int := datum.toInt?.getD 0

@[simp] theorem Datum.toInt_finite (negative : Bool) (units : Nat) :
    (Datum.finite negative units).toInt = if negative then -(units : Int) else units := rfl

/-- A multiple of the units is the same multiple of the value. -/
theorem Datum.toInt_finite_mul (negative : Bool) (units k : Nat) :
    (Datum.finite negative (units * k)).toInt = (Datum.finite negative units).toInt * k := by
  cases negative <;> simp

/-- Finite data are those with a sign and a number of units. -/
theorem Datum.isFinite_iff {datum : Datum} :
    datum.isFinite ↔ ∃ negative units, datum = .finite negative units := by
  cases datum <;> simp [isFinite]

/-- Only a finite magnitude above zero has a positive number of units. -/
theorem Datum.eq_finite_of_pos {datum : Datum} (h : 0 < datum.toInt) :
    ∃ units, 0 < units ∧ datum = .finite false units := by
  cases datum with
  | nan => simp [toInt, toInt?] at h
  | infinite negative => simp [toInt, toInt?] at h
  | finite negative units =>
      rw [toInt_finite] at h
      cases negative with
      | false => exact ⟨units, by simpa using h, rfl⟩
      | true =>
          rw [if_pos rfl] at h
          omega

/-- Finite data are ordered like the integers that they count. -/
theorem Datum.less_iff {a b : Datum} (ha : a.isFinite) (hb : b.isFinite) :
    a.less b ↔ a.toInt < b.toInt := by
  obtain ⟨s, m, rfl⟩ := isFinite_iff.mp ha
  obtain ⟨t, n, rfl⟩ := isFinite_iff.mp hb
  simp only [less, decide_eq_true_eq, toInt_finite]

/-- Finite data are at most another one exactly if their integers are. -/
theorem Datum.atMost_iff {a b : Datum} (ha : a.isFinite) (hb : b.isFinite) :
    a.atMost b ↔ a.toInt ≤ b.toInt := by
  obtain ⟨s, m, rfl⟩ := isFinite_iff.mp ha
  obtain ⟨t, n, rfl⟩ := isFinite_iff.mp hb
  simp only [atMost, less, same, Bool.or_eq_true, decide_eq_true_eq, toInt_finite]
  omega

/-- The order of data is transitive, infinities included. -/
theorem Datum.atMost_trans {a b c : Datum} (hab : a.atMost b) (hbc : b.atMost c) :
    a.atMost c := by
  cases a <;> cases b <;> cases c <;> grind [atMost, less, same]

namespace Format

variable (f : Format)

theorem one_pos : 0 < f.one := Nat.two_pow_pos f.scale

theorem one_eq : f.one = 2 ^ f.scale := rfl

theorem pow_add_scale (k : Nat) : 2 ^ (k + f.scale) = 2 ^ k * f.one := Nat.pow_add 2 k f.scale

/-- The units of a wider format divide those of a narrower one. -/
theorem one_eq_mul {g : Format} (h : g.scale ≤ f.scale) :
    f.one = 2 ^ (f.scale - g.scale) * g.one := by
  rw [← pow_add_scale, Nat.sub_add_cancel h, one_eq]

/-! ## Words -/

/-- A word of the format that stands for a finite number. -/
structure Encodes (word : Nat) (negative : Bool) (units : Nat) : Prop where
  bound : word < 2 * f.signBit
  datum : f.datum word = .finite negative units

variable {f}

/-- A magnitude with a sign bit encodes its units with that sign. -/
theorem encodes_signed {magnitude : Nat} (h : magnitude < f.infinity) (negative : Bool) :
    f.Encodes (f.signed negative magnitude) negative (f.units magnitude) := by
  refine ⟨?_, f.datum_signed h negative⟩
  have hbelow : magnitude < f.signBit := Nat.lt_trans h f.infinity_lt_signBit
  unfold signed
  split <;> omega

/-- A finite datum shows the two parts of its word. -/
theorem datum_eq_finite {word units : Nat} {negative : Bool}
    (h : f.datum word = .finite negative units) :
    negative = decide (f.signBit ≤ word) ∧ word % f.signBit < f.infinity ∧
      f.units (word % f.signBit) = units := by
  unfold datum at h
  dsimp only at h
  split at h
  · rename_i hfinite
    obtain ⟨hsign, hunits⟩ := Datum.finite.inj h
    exact ⟨hsign.symm, hfinite, hunits⟩
  · split at h <;> cases h

/-- A word is its sign and its magnitude. -/
theorem signed_mod {word : Nat} (h : word < 2 * f.signBit) :
    f.signed (decide (f.signBit ≤ word)) (word % f.signBit) = word := by
  by_cases hsign : f.signBit ≤ word
  · have hmagnitude : word % f.signBit = word - f.signBit := by
      rw [Nat.mod_eq_sub_mod hsign, Nat.mod_eq_of_lt (by omega)]
    rw [decide_eq_true hsign, signed, if_pos rfl, hmagnitude, Nat.add_sub_cancel' hsign]
  · rw [decide_eq_false hsign, signed, if_neg Bool.false_ne_true,
      Nat.mod_eq_of_lt (Nat.not_le.mp hsign)]

/-- A finite number has one word. -/
theorem Encodes.eq_signed {word units : Nat} {negative : Bool}
    (h : f.Encodes word negative units) : word = f.signed negative (f.round units 1) := by
  obtain ⟨hsign, hfinite, hunits⟩ := datum_eq_finite h.datum
  rw [← hunits, f.round_units hfinite, hsign, signed_mod h.bound]

/-- The sign is changed and nothing else. -/
theorem Encodes.negate {word units : Nat} {negative : Bool} (h : f.Encodes word negative units) :
    f.Encodes (f.negate word) (!negative) units := by
  obtain ⟨hsign, hfinite, hunits⟩ := datum_eq_finite h.datum
  have hmagnitude : word % f.signBit < f.signBit := Nat.mod_lt _ (Nat.two_pow_pos _)
  have hword := signed_mod h.bound
  rw [← hsign] at hword
  have hnegate : f.negate word = f.signed (!negative) (word % f.signBit) := by
    cases negative with
    | false =>
        have hbelow : ¬ f.signBit ≤ word := by simpa using hsign.symm
        rw [Format.negate, if_neg hbelow, Bool.not_false, signed, if_pos rfl,
          Nat.mod_eq_of_lt (Nat.not_le.mp hbelow), Nat.add_comm]
    | true =>
        have habove : f.signBit ≤ word := by simpa using hsign.symm
        rw [signed, if_pos rfl] at hword
        rw [Format.negate, if_pos habove, Bool.not_true, signed, if_neg Bool.false_ne_true]
        omega
  rw [hnegate, ← hunits]
  exact encodes_signed hfinite (!negative)

/-- A finite word that is not zero is rounded from its own units. -/
theorem ofUnits_toInt? {word : Nat} {units : Int} (hbound : word < 2 * f.signBit)
    (h : (f.datum word).toInt? = some units) (hne : units ≠ 0) : f.ofUnits units = word := by
  rw [datum] at h
  split at h
  · rename_i hfinite
    have hunits : (if decide (f.signBit ≤ word) then -(f.units (word % f.signBit) : Int)
        else f.units (word % f.signBit)) = units := Option.some.inj h
    have hparts : units.natAbs = f.units (word % f.signBit) ∧
        decide (units < 0) = decide (f.signBit ≤ word) := by
      by_cases hsign : f.signBit ≤ word
      · rw [decide_eq_true hsign, if_pos rfl] at hunits
        rw [decide_eq_true hsign, decide_eq_true_eq]
        omega
      · rw [decide_eq_false hsign, if_neg Bool.false_ne_true] at hunits
        rw [decide_eq_false hsign, decide_eq_false_iff_not]
        omega
    rw [ofUnits, hparts.1, hparts.2, f.round_units hfinite, signed_mod hbound]
  · split at h <;> cases h

/-- A short integer is kept. -/
theorem encodes_ofInt {n : Int} (hn : n.natAbs < 2 * 2 ^ f.fractionBits)
    (hfill : f.fractionBits ≤ f.scale) (hrange : f.scale + 2 < 2 ^ f.exponentBits) :
    f.Encodes (f.ofInt n) (decide (n < 0)) (n.natAbs * f.one) := by
  obtain ⟨hfinite, hunits⟩ := f.round_dyadic hn hfill hrange Nat.one_pos
  rw [Nat.mul_one] at hfinite hunits
  have hsign : decide (n * (f.one : Int) < 0) = decide (n < 0) := by
    have hone : (0 : Int) < f.one := Int.natCast_pos.mpr f.one_pos
    rw [decide_eq_decide]
    exact ⟨fun hneg => neg_of_mul_neg_left hneg hone.le, fun hneg => mul_neg_of_neg_of_pos hneg hone⟩
  have habs : (n * (f.one : Int)).natAbs = n.natAbs * 2 ^ f.scale := by
    rw [Int.natAbs_mul, Int.natAbs_natCast]
    rfl
  have hencodes := encodes_signed hfinite (decide (n < 0))
  rw [hunits] at hencodes
  rwa [ofInt, ofUnits, hsign, habs]

/-- A natural number is rounded to a whole number of units. -/
theorem encodes_ofNat {n : Nat} (hfinite : f.round (n * f.one) 1 < f.infinity) :
    f.Encodes (f.ofInt n) false (f.units (f.round (n * f.one) 1)) := by
  have hsign : decide ((n : Int) * f.one < 0) = false := by
    rw [decide_eq_false_iff_not, not_lt]
    positivity
  have habs : ((n : Int) * f.one).natAbs = n * f.one := by
    rw [Int.natAbs_mul, Int.natAbs_natCast, Int.natAbs_natCast]
  rw [ofInt, ofUnits, hsign, habs]
  exact encodes_signed hfinite false

/-- A number of a narrower format is kept. -/
theorem encodes_ofFormat {g : Format} {word units : Nat} {negative : Bool}
    (h : g.datum word = .finite negative units) (hbits : 2 < 2 ^ g.exponentBits)
    (hfraction : g.fractionBits ≤ f.fractionBits) (hfill : f.fractionBits + g.scale ≤ f.scale)
    (hrange : 2 ^ g.exponentBits + f.scale < 2 ^ f.exponentBits + g.scale) :
    f.Encodes (f.ofFormat g word) negative (units * 2 ^ (f.scale - g.scale)) := by
  obtain ⟨hsign, hmagnitude, hunits⟩ := datum_eq_finite h
  generalize word % g.signBit = magnitude at hmagnitude hunits
  have hsignificand : g.significand magnitude < 2 * 2 ^ f.fractionBits :=
    Nat.lt_of_lt_of_le (g.significand_lt magnitude)
      (Nat.mul_le_mul_left 2 (Nat.pow_le_pow_right Nat.two_pos hfraction))
  have hshift := g.shift_lt hbits hmagnitude
  have hscaled : units * f.one =
      g.significand magnitude * 2 ^ (g.shift magnitude + (f.scale - g.scale)) * g.one := by
    have hone : f.one = 2 ^ (f.scale - g.scale) * g.one := f.one_eq_mul (by omega)
    rw [← hunits, hone, Nat.pow_add, Format.units, Nat.pow_eq]
    ring
  obtain ⟨hfinite, hkept⟩ := f.round_dyadic hsignificand
    (j := g.shift magnitude + (f.scale - g.scale)) (by omega) (by omega) g.one_pos
  rw [← hscaled] at hfinite hkept
  have hencodes := encodes_signed hfinite negative
  rw [hkept, Nat.pow_add, ← Nat.mul_assoc] at hencodes
  have hvalue : g.significand magnitude * 2 ^ g.shift magnitude = units := hunits
  rw [hvalue] at hencodes
  rwa [ofFormat, h, ← hsign]

/-- A quotient is rounded, unless it is too large. -/
theorem encodes_div {a b m n : Nat} {s t : Bool} (ha : f.datum a = .finite s m)
    (hb : f.datum b = .finite t n) (hn : 0 < n) (hfinite : f.round (m * f.one) n < f.infinity) :
    f.Encodes (f.div a b) (s != t) (f.units (f.round (m * f.one) n)) := by
  rw [div, ha, hb]
  dsimp only
  rw [if_pos (by omega)]
  exact encodes_signed hfinite (s != t)

/-! ## Short integers -/

/-- A quotient of units that is a short integer is not rounded. -/
theorem round_whole {n num den : Nat} (hn : n < 2 * 2 ^ f.fractionBits)
    (hfill : f.fractionBits ≤ f.scale) (hrange : f.scale + 2 < 2 ^ f.exponentBits) (hden : 0 < den)
    (hnum : num = n * f.one * den) :
    f.round num den < f.infinity ∧ f.units (f.round num den) = n * f.one := by
  rw [hnum]
  exact f.round_dyadic hn hfill hrange hden

/-- A quotient that is a short integer is exact. -/
theorem encodes_div_whole {a b n d : Nat} {s t : Bool}
    (ha : f.datum a = .finite s (n * d * f.one)) (hb : f.datum b = .finite t (d * f.one))
    (hn : n < 2 * 2 ^ f.fractionBits) (hd : 0 < d) (hfill : f.fractionBits ≤ f.scale)
    (hrange : f.scale + 2 < 2 ^ f.exponentBits) :
    f.Encodes (f.div a b) (s != t) (n * f.one) := by
  have hden : 0 < d * f.one := Nat.mul_pos hd f.one_pos
  obtain ⟨hfinite, hunits⟩ := round_whole hn hfill hrange hden
    (show n * d * f.one * f.one = n * f.one * (d * f.one) by ring)
  rw [← hunits]
  exact encodes_div ha hb hden hfinite

/-- A short integer of another format is kept. -/
theorem encodes_ofFormat_whole {g : Format} {word n : Nat} {negative : Bool}
    (h : g.datum word = .finite negative (n * g.one)) (hn : n < 2 * 2 ^ f.fractionBits)
    (hfill : f.fractionBits ≤ f.scale) (hrange : f.scale + 2 < 2 ^ f.exponentBits) :
    f.Encodes (f.ofFormat g word) negative (n * f.one) := by
  obtain ⟨hfinite, hunits⟩ := round_whole hn hfill hrange g.one_pos
    (show n * g.one * f.one = n * f.one * g.one by ring)
  obtain ⟨hsign, -, -⟩ := datum_eq_finite h
  have hencodes := encodes_signed hfinite negative
  rw [hunits] at hencodes
  rwa [ofFormat, h, ← hsign]

end Format

end VehicleBus.Binary

namespace VehicleBus

open Binary

/-! ## 64-bit numbers -/

namespace Binary64

/-- The number of a finite value. -/
def toRat (x : Binary64) : ℚ := x.datum.toInt / binary64.one

theorem one_pos : (0 : ℚ) < (binary64.one : ℚ) := Nat.cast_pos.mpr binary64.one_pos

/-- A word that encodes a value is read as this value. -/
theorem datum_ofWord {word units : Nat} {negative : Bool}
    (h : binary64.Encodes word negative units) : (ofWord word).datum = .finite negative units := by
  have hword : (ofWord word).word = word := UInt64.toNat_ofNat_of_lt' h.bound
  rw [datum, hword, h.datum]

/-- A value that is not negative is its units, divided by the units of one. -/
theorem toRat_of_datum {x : Binary64} {units : Nat} (h : x.datum = .finite false units) :
    x.toRat = units / binary64.one := by
  rw [toRat, h, Datum.toInt_finite, if_neg Bool.false_ne_true, Int.cast_natCast]

/-- Finite numbers are ordered like the rationals that they stand for. -/
theorem atMost_iff {x y : Binary64} (hx : x.isFinite) (hy : y.isFinite) :
    x.atMost y ↔ x.toRat ≤ y.toRat := by
  rw [atMost, Datum.atMost_iff hx hy, toRat, toRat, div_le_div_iff_of_pos_right one_pos, Int.cast_le]

/-- The word of a finite number encodes it. -/
theorem encodes_word {x : Binary64} {negative : Bool} {units : Nat}
    (h : x.datum = .finite negative units) : binary64.Encodes x.word negative units :=
  ⟨x.bits.toNat_lt, h⟩

/-- Finite values are told apart by what they stand for. -/
theorem eq_of_datum {x y : Binary64} {negative : Bool} {units : Nat}
    (hx : x.datum = .finite negative units) (hy : y.datum = .finite negative units) : x = y := by
  have hword : x.word = y.word := (encodes_word hx).eq_signed.trans (encodes_word hy).eq_signed.symm
  exact congrArg mk (UInt64.toNat_inj.mp hword)

/-- Negation turns the sign and keeps the units. -/
theorem datum_neg {x : Binary64} {negative : Bool} {units : Nat}
    (h : x.datum = .finite negative units) : (-x).datum = .finite (!negative) units :=
  datum_ofWord (encodes_word h).negate

/-- Integers of up to 53 bits are kept. -/
theorem datum_ofNat {n : Nat} (h : n < 2 ^ 53) :
    (ofNat n).datum = .finite false (n * binary64.one) := by
  have hencodes : binary64.Encodes (binary64.ofInt n) (decide ((n : Int) < 0))
      ((n : Int).natAbs * binary64.one) := Format.encodes_ofInt h (by decide) (by decide)
  have hsign : decide ((n : Int) < 0) = false := by simp
  rw [hsign, Int.natAbs_natCast] at hencodes
  exact datum_ofWord hencodes

/-- Whole numbers below 2^53 are exact. -/
theorem toRat_ofNat {n : Nat} (h : n < 2 ^ 53) : (ofNat n).isFinite ∧ (ofNat n).toRat = n := by
  have hofNat := datum_ofNat h
  constructor
  · rw [isFinite, hofNat]
    rfl
  · rw [toRat_of_datum hofNat, Nat.cast_mul, mul_div_cancel_right₀ _ one_pos.ne']

/-- Times are finite numbers, rounded to a whole number of units. -/
theorem datum_ofNat_of_lt_two_pow_64 {n : Nat} (h : n < 2 ^ 64) :
    binary64.round (n * binary64.one) 1 < binary64.infinity ∧
      (ofNat n).datum = .finite false (binary64.units (binary64.round (n * binary64.one) 1)) := by
  have hbelow : n * binary64.one < 2 ^ (64 + binary64.scale) * 1 := by
    rw [Format.pow_add_scale, Nat.mul_one]
    exact Nat.mul_lt_mul_of_pos_right h binary64.one_pos
  have hfinite : binary64.round (n * binary64.one) 1 < binary64.infinity :=
    binary64.round_lt_infinity Nat.one_pos hbelow (by decide) (by decide)
  exact ⟨hfinite, datum_ofWord (Format.encodes_ofNat hfinite)⟩

/-- A longer time is not measured as a shorter one. -/
theorem ofNat_mono {m n : Nat} (h : m ≤ n) (hn : n < 2 ^ 64) : (ofNat m).atMost (ofNat n) := by
  obtain ⟨hmfinite, hmdatum⟩ := datum_ofNat_of_lt_two_pow_64 (h.trans_lt hn)
  obtain ⟨hnfinite, hndatum⟩ := datum_ofNat_of_lt_two_pow_64 hn
  have hunits := binary64.units_round_mono (Nat.mul_le_mul_right binary64.one h) Nat.one_pos
    hmfinite hnfinite
  rw [atMost, hmdatum, hndatum, Datum.atMost_iff rfl rfl]
  exact Int.ofNat_le.mpr hunits

/-- An integer that a value is, is that value again, if it is not zero. -/
theorem ofInt_of_toInt? {x : Binary64} {n : Int} (h : x.toInt? = some n) (hn : n ≠ 0) :
    ofInt n = x := by
  rw [toInt?] at h
  split at h
  · rename_i units hunits
    split at h
    · rename_i hwhole
      have hvalue : n * binary64.one = units := by
        rw [← Option.some.inj h]
        exact Int.ediv_mul_cancel (Int.dvd_of_emod_eq_zero hwhole)
      have hne : units ≠ 0 := by
        rw [← hvalue]
        exact Int.mul_ne_zero hn (Int.natCast_ne_zero.mpr binary64.one_pos.ne')
      rw [ofInt, Format.ofInt, hvalue, Format.ofUnits_toInt? x.bits.toNat_lt hunits hne]
      exact congrArg mk x.bits.ofNat_toNat
    · cases h
  · cases h

/-- A positive value is a positive number of units. -/
theorem datum_of_pos {x : Binary64} (hpos : 0 < x.toRat) :
    ∃ units, 0 < units ∧ x.datum = .finite false units ∧ x.toRat = units / binary64.one := by
  have hint : 0 < x.datum.toInt := by
    rw [toRat, div_pos_iff_of_pos_right one_pos] at hpos
    exact_mod_cast hpos
  obtain ⟨units, hunits, hdatum⟩ := Datum.eq_finite_of_pos hint
  exact ⟨units, hunits, hdatum, toRat_of_datum hdatum⟩

/-- **The quotient is the nearest number** up to a relative error of `2 ^ -53`, if it is
neither too small nor too large. -/
theorem div_error {x y : Binary64} {j k : Nat} (hxpos : 0 < x.toRat) (hypos : 0 < y.toRat)
    (hlow : y.toRat ≤ x.toRat * 2 ^ j) (hj : j ≤ 1022) (hhigh : x.toRat < y.toRat * 2 ^ k)
    (hk : k ≤ 1023) :
    (x / y).isFinite ∧ |(x / y).toRat * y.toRat - x.toRat| * 2 ^ 53 ≤ x.toRat := by
  obtain ⟨m, hm, hxdatum, hxrat⟩ := datum_of_pos hxpos
  obtain ⟨n, hn, hydatum, hyrat⟩ := datum_of_pos hypos
  have hscale : binary64.scale = 1074 := rfl
  have hfull : 2 ^ 52 * n ≤ m * binary64.one := by
    rw [hxrat, hyrat, div_mul_eq_mul_div, div_le_div_iff_of_pos_right one_pos] at hlow
    have hunits : n ≤ m * 2 ^ j := by exact_mod_cast hlow
    have hone : 2 ^ 52 * 2 ^ j ≤ binary64.one := by
      rw [← Nat.pow_add, Format.one_eq]
      exact Nat.pow_le_pow_right Nat.two_pos (by omega)
    calc 2 ^ 52 * n ≤ 2 ^ 52 * (m * 2 ^ j) := Nat.mul_le_mul_left _ hunits
      _ = m * (2 ^ 52 * 2 ^ j) := Nat.mul_left_comm _ _ _
      _ ≤ m * binary64.one := Nat.mul_le_mul_left _ hone
  have hbelow : m * binary64.one < 2 ^ (k + binary64.scale) * n := by
    rw [hxrat, hyrat, div_mul_eq_mul_div, div_lt_div_iff_of_pos_right one_pos] at hhigh
    have hunits : m < n * 2 ^ k := by exact_mod_cast hhigh
    calc m * binary64.one < n * 2 ^ k * binary64.one :=
          Nat.mul_lt_mul_of_pos_right hunits binary64.one_pos
      _ = 2 ^ (k + binary64.scale) * n := by
          rw [Format.pow_add_scale, Nat.mul_comm n, Nat.mul_right_comm]
  have hfinite : binary64.round (m * binary64.one) n < binary64.infinity := by
    refine binary64.round_lt_infinity hn hbelow ?_ ?_
    · show 52 < k + binary64.scale
      omega
    · show k + binary64.scale + 2 < 52 + 2 ^ 11
      omega
  have hdatum : (x / y).datum = .finite false (binary64.units (binary64.round (m * binary64.one) n)) :=
    datum_ofWord (Format.encodes_div hxdatum hydatum hn hfinite)
  obtain ⟨hupper, hlower⟩ := binary64.round_error hn hfinite hfull
  generalize binary64.units (binary64.round (m * binary64.one) n) = units at hdatum hupper hlower
  refine ⟨by rw [isFinite, hdatum]; rfl, ?_⟩
  -- Both sides are counted in squares of the unit.
  have hpos : (0 : ℚ) < (binary64.one : ℚ) * binary64.one := mul_pos one_pos one_pos
  have hdiff : (x / y).toRat * y.toRat - x.toRat =
      ((units * n : Nat) - (m * binary64.one : Nat) : ℚ) / (binary64.one * binary64.one) := by
    have hcommon : ∀ a b c one : ℚ, one ≠ 0 → a / one * (b / one) - c / one =
        (a * b - c * one) / (one * one) := by
      intro a b c one hne
      field_simp
    rw [toRat_of_datum hdatum, hxrat, hyrat, hcommon _ _ _ _ one_pos.ne', Nat.cast_mul, Nat.cast_mul]
  have hexact : x.toRat = (m * binary64.one : Nat) / (binary64.one * binary64.one) := by
    rw [hxrat, Nat.cast_mul, mul_div_mul_right _ _ one_pos.ne']
  have hupper' : 2 ^ 53 * ((units * n : Nat) : ℚ) ≤ (2 ^ 53 + 1) * ((m * binary64.one : Nat) : ℚ) := by
    exact_mod_cast hupper
  have hlower' : 2 ^ 53 * ((m * binary64.one : Nat) : ℚ) ≤
      2 ^ 53 * ((units * n : Nat) : ℚ) + ((m * binary64.one : Nat) : ℚ) := by
    exact_mod_cast hlower
  rw [hdiff, abs_div, abs_of_pos hpos, div_mul_eq_mul_div, hexact, div_le_div_iff_of_pos_right hpos]
  rw [← le_div_iff₀ (by positivity), abs_le]
  constructor <;> linarith

end Binary64

/-! ## 32-bit numbers -/

namespace Binary32

/-- The number of a finite value. -/
def toRat (x : Binary32) : ℚ := x.datum.toInt / binary32.one

theorem one_pos : (0 : ℚ) < (binary32.one : ℚ) := Nat.cast_pos.mpr binary32.one_pos

/-- A word that encodes a value is read as this value. -/
theorem datum_ofWord {word units : Nat} {negative : Bool}
    (h : binary32.Encodes word negative units) : (ofWord word).datum = .finite negative units := by
  have hword : (ofWord word).word = word := UInt32.toNat_ofNat_of_lt' h.bound
  rw [datum, hword, h.datum]

/-- The word of a finite number encodes it. -/
theorem encodes_word {x : Binary32} {negative : Bool} {units : Nat}
    (h : x.datum = .finite negative units) : binary32.Encodes x.word negative units :=
  ⟨x.bits.toNat_lt, h⟩

/-- Finite values are told apart by what they stand for. -/
theorem eq_of_datum {x y : Binary32} {negative : Bool} {units : Nat}
    (hx : x.datum = .finite negative units) (hy : y.datum = .finite negative units) : x = y := by
  have hword : x.word = y.word := (encodes_word hx).eq_signed.trans (encodes_word hy).eq_signed.symm
  exact congrArg mk (UInt32.toNat_inj.mp hword)

/-- A finite number is positive exactly if its rational is. -/
theorem isPositive_iff {x : Binary32} (hx : x.isFinite) : x.isPositive ↔ 0 < x.toRat := by
  have hzero : zero.datum = .finite false 0 := rfl
  rw [isPositive, hzero, Datum.less_iff rfl hx, toRat, div_pos_iff_of_pos_right one_pos]
  simp

/-- Positive values keep away from zero and from infinity. -/
theorem bounds {x : Binary32} (hpos : 0 < x.toRat) :
    1 ≤ x.toRat * 2 ^ 149 ∧ x.toRat < 2 ^ 128 := by
  have hint : 0 < x.datum.toInt := by
    rw [toRat, div_pos_iff_of_pos_right one_pos] at hpos
    exact_mod_cast hpos
  obtain ⟨units, hunits, hdatum⟩ := Datum.eq_finite_of_pos hint
  have hrat : x.toRat = units / 2 ^ 149 := by
    have hone : (binary32.one : ℚ) = 2 ^ 149 := by
      rw [show binary32.one = 2 ^ 149 from rfl, Nat.cast_pow, Nat.cast_ofNat]
    rw [toRat, hdatum, hone, Datum.toInt_finite, if_neg Bool.false_ne_true, Int.cast_natCast]
  have hbelow : units < 2 ^ 24 * 2 ^ 253 := by
    obtain ⟨-, hmagnitude, hunits⟩ := Format.datum_eq_finite hdatum
    generalize x.word % binary32.signBit = magnitude at hmagnitude hunits
    subst hunits
    have hshift : binary32.shift magnitude + 2 < 2 ^ 8 := binary32.shift_lt (by decide) hmagnitude
    have hexponent : 2 ^ binary32.shift magnitude ≤ 2 ^ 253 :=
      Nat.pow_le_pow_right Nat.two_pos (by omega)
    exact Nat.mul_lt_mul_of_lt_of_le (binary32.significand_lt magnitude) hexponent
      (Nat.two_pow_pos _)
  rw [hrat]
  constructor
  · rw [div_mul_cancel₀ _ (by positivity)]
    exact_mod_cast hunits
  · rw [div_lt_iff₀ (by positivity)]
    calc (units : ℚ) < 2 ^ 24 * 2 ^ 253 := by exact_mod_cast hbelow
      _ = 2 ^ 128 * 2 ^ 149 := by norm_num

/-- Widening keeps the number. -/
theorem toRat_widen {x : Binary32} (hx : x.isFinite) :
    x.widen.isFinite ∧ x.widen.toRat = x.toRat := by
  obtain ⟨negative, units, hdatum⟩ := Datum.isFinite_iff.mp hx
  -- A unit of the narrow format is a whole number of units of the wide one.
  obtain ⟨k, hk, hwide, hone⟩ : ∃ k, 0 < k ∧ x.widen.datum = .finite negative (units * k) ∧
      binary64.one = k * binary32.one :=
    ⟨2 ^ (binary64.scale - binary32.scale), Nat.two_pow_pos _, Binary64.datum_ofWord
      (Format.encodes_ofFormat hdatum (by decide) (by decide) (by decide) (by decide)),
      binary64.one_eq_mul (by decide)⟩
  refine ⟨by rw [Binary64.isFinite, hwide]; rfl, ?_⟩
  have hk' : (k : ℚ) ≠ 0 := Nat.cast_ne_zero.mpr hk.ne'
  rw [Binary64.toRat, toRat, hwide, hdatum, hone, Datum.toInt_finite_mul, Int.cast_mul,
    Int.cast_natCast, Nat.cast_mul, mul_comm, mul_div_mul_left _ _ hk']

end Binary32

end VehicleBus
