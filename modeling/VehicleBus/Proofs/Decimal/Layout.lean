import Mathlib.Data.List.DropRight
import VehicleBus.Decimal.Layout
import VehicleBus.Proofs.Binary.Rounding
import VehicleBus.Proofs.Json.Number

/-!
# Written numbers keep to the grammar

The digits of the shortest decimal of a number start with no zero, so whatever layout
writes them, a finite number is written as a number of the grammar
(`Layout.exists_lawful_render`).
-/

namespace VehicleBus

namespace Binary.Format

/-- A magnitude above zero has a significand above zero, -/
theorem significand_pos (f : Format) {w : Nat} (hw : 0 < w) : 0 < f.significand w := by
  have hsplit := Nat.div_add_mod' w (2 ^ f.fractionBits)
  simp only [significand, shift, Nat.pow_eq]
  generalize 2 ^ f.fractionBits = unit at *
  cases hfield : w / unit with
  | zero => simpa using hw
  | succ field =>
      rw [hfield, Nat.add_mul, Nat.one_mul] at hsplit
      rw [Nat.add_sub_cancel]
      have hunit : 0 < unit := by
        by_contra hzero
        obtain rfl : unit = 0 := by omega
        simp at hfield
      omega

/-- and so is some units. -/
theorem units_pos (f : Format) {w : Nat} (hw : 0 < w) : 0 < f.units w :=
  Nat.mul_pos (f.significand_pos hw) (Nat.two_pow_pos _)

end Binary.Format

namespace Decimal

open Binary Json

/-! ## Digits of the shortest decimal -/

/-- Digits that a layout can write: no zero leads them, but zero itself is one digit. -/
structure Numeral.Lawful (n : Numeral) : Prop where
  digits : n.digits ≠ [] ∧ ∀ c ∈ n.digits, c.isDigit
  noLeadingZero : n.digits.head? = some '0' → n.digits = ['0'] ∧ n.lead = 0

/-- Zero does not read back as a number above it. -/
theorem pos_of_readsBack {f : Format} {w coefficient : Nat} {exponent : Int} (hw : 0 < w)
    (h : readsBack f w coefficient exponent) : 0 < coefficient := by
  by_contra hzero
  obtain rfl : coefficient = 0 := by omega
  have hgap : 0 < Nat.pow 2 (f.shift w) := Nat.two_pow_pos _
  have hunits : Nat.pow 2 (f.shift w) ≤ f.units w :=
    Nat.le_mul_of_pos_left _ (f.significand_pos hw)
  have hbelow : ∀ amount, 0 < amount → compareQuarters f 0 exponent amount = .lt := by
    intro amount hamount
    rw [compareQuarters, Nat.zero_mul, Nat.zero_mul, Nat.compare_eq_lt]
    exact Nat.mul_pos hamount (Nat.pow_pos (by decide))
  simp only [readsBack] at h
  rw [hbelow] at h
  · simp at h
  · split <;> omega

/-- A decimal that a grid offers reads back. -/
theorem readsBack_of_onGrid {f : Format} {tie : Tie} {w coefficient : Nat} {exponent : Int}
    (h : onGrid f tie w exponent = some coefficient) : readsBack f w coefficient exponent := by
  simp only [onGrid] at h
  split at h
  · rename_i hboth
    rw [Bool.and_eq_true] at hboth
    obtain ⟨hlow, hhigh⟩ := hboth
    split at h
    · exact Option.some.inj h ▸ hlow
    · exact Option.some.inj h ▸ hhigh
    · exact Option.some.inj h ▸ hhigh
    · split at h
      · exact Option.some.inj h ▸ hlow
      · exact Option.some.inj h ▸ hhigh
  · split at h
    · rename_i hlow
      exact Option.some.inj h ▸ hlow
    · split at h
      · rename_i hhigh
        exact Option.some.inj h ▸ hhigh
      · cases h

/-- Trailing zeros are no part of a number's digits, and the rest is never empty. -/
theorem Numeral.lawful_ofScaled {coefficient : Nat} (hpos : 0 < coefficient) (exponent : Int) :
    (Numeral.ofScaled coefficient exponent).Lawful := by
  have hhead : (Nat.toDigits 10 coefficient).head? ≠ some '0' :=
    Text.head?_toDigits_ne_zero (by decide) hpos
  have hdigits : ∀ c ∈ Nat.toDigits 10 coefficient, c.isDigit :=
    fun _ hc => Nat.isDigit_of_mem_toDigits (by decide) (by decide) hc
  obtain ⟨dropped, hkept⟩ := List.rdropWhile_prefix (· == '0') (Nat.toDigits 10 coefficient)
  have hparts : (Numeral.ofScaled coefficient exponent).digits ++ dropped =
      Nat.toDigits 10 coefficient := hkept
  have hne : (Numeral.ofScaled coefficient exponent).digits ≠ [] := by
    intro hnil
    have hall := List.rdropWhile_eq_nil_iff.mp hnil
    cases hcases : Nat.toDigits 10 coefficient with
    | nil => exact absurd hcases Nat.toDigits_ne_nil
    | cons c rest =>
        rw [hcases] at hhead hall
        exact hhead (congrArg some (eq_of_beq (hall c List.mem_cons_self)))
  refine ⟨⟨hne, fun c hc => hdigits c ?_⟩, fun hzero => absurd ?_ hhead⟩
  · rw [← hparts]
    exact List.mem_append_left _ hc
  · rw [← hparts, List.head?_append, hzero]
    rfl

/-- The shortest digits of a positive number are a lawful numeral. -/
theorem lawful_shortest (f : Format) (tie : Tie) {w : Nat} (hw : 0 < w) :
    (shortest f tie w).Lawful := by
  simp only [shortest]
  cases hfound : (List.range (digitLimit f)).findSome? fun extra =>
      (onGrid f tie w (magnitudeBound f w - 1 - (extra : Nat))).map fun coefficient =>
        Numeral.ofScaled coefficient (magnitudeBound f w - 1 - (extra : Nat)) with
  | none =>
      exact Numeral.lawful_ofScaled
        (Nat.mul_pos (f.units_pos hw) (Nat.pow_pos (by decide))) _
  | some n =>
      obtain ⟨extra, -, hextra⟩ := List.exists_of_findSome?_eq_some hfound
      obtain ⟨coefficient, hgrid, rfl⟩ := Option.map_eq_some_iff.mp hextra
      exact Numeral.lawful_ofScaled (pos_of_readsBack hw (readsBack_of_onGrid hgrid)) _

namespace Layout

variable (layout : Layout)

/-- The parts of a written numeral. -/
def parts (negative : Bool) (n : Numeral) : NumberText :=
  if layout.positional n.lead then
    if n.lead < 0 then
      { negative, whole := ['0'], exponent := none
        fraction := some (List.replicate (-n.lead - 1).toNat '0' ++ n.digits) }
    else
      let width := n.lead.toNat + 1
      let fraction := n.digits.drop width
      { negative, exponent := none
        whole := n.digits.take width ++ List.replicate (width - n.digits.length) '0'
        fraction :=
          if fraction.isEmpty then (if layout.pointZero then some ['0'] else none)
          else some fraction }
  else
    let fraction := n.digits.drop 1
    { negative, whole := n.digits.take 1
      fraction := if fraction.isEmpty then none else some fraction
      exponent := some (decide (n.lead < 0), Nat.toDigits 10 n.lead.natAbs) }

/-- The characters of a number are its sign and its written numeral. -/
theorem chars_parts (negative : Bool) (n : Numeral) :
    (layout.parts negative n).chars =
      (if negative then ['-'] else []) ++ (layout.write n).toList := by
  unfold parts write
  split
  · rw [writePositional]
    split
    · simp [NumberText.chars]
    · dsimp only
      split
      · cases layout.pointZero <;> simp [NumberText.chars]
      · simp [NumberText.chars]
  · rw [writeExponent]
    dsimp only
    split <;> by_cases hlead : n.lead < 0 <;>
      simp [NumberText.chars, NumberText.exponentChars, hlead]

/-- A written numeral keeps to the grammar, with or without an exponent. -/
theorem lawful_parts (negative : Bool) {n : Numeral} (h : n.Lawful) :
    (layout.parts negative n).Lawful := by
  obtain ⟨⟨hne, hdigits⟩, hzero⟩ := h
  have hzeros : ∀ count, ∀ c ∈ List.replicate count '0', c.isDigit := by
    intro count c hc
    rw [List.eq_of_mem_replicate hc]
    rfl
  obtain ⟨d, rest, hcons⟩ := List.exists_cons_of_ne_nil hne
  unfold parts
  split
  · split
    · refine ⟨by simp, fun _ => rfl, ?_, by simp⟩
      rintro _ ⟨⟩
      refine ⟨by simp [hne], fun c hc => ?_⟩
      rcases List.mem_append.mp hc with hc | hc
      · exact hzeros _ c hc
      · exact hdigits c hc
    · refine ⟨⟨by simp [hcons], fun c hc => ?_⟩, fun hhead => ?_, ?_, by simp⟩
      · rcases List.mem_append.mp hc with hc | hc
        · exact hdigits c (List.mem_of_mem_take hc)
        · exact hzeros _ c hc
      · have hfirst : n.digits.head? = some '0' := by simpa [hcons] using hhead
        obtain ⟨hone, hlead⟩ := hzero hfirst
        simp [hone, hlead]
      · dsimp only
        split
        · cases layout.pointZero <;> simp
        · rename_i hfraction
          rintro _ ⟨⟩
          exact ⟨by simpa using hfraction, fun c hc => hdigits c (List.mem_of_mem_drop hc)⟩
  · refine ⟨⟨by simp [hcons], fun c hc => hdigits c (List.mem_of_mem_take hc)⟩,
      fun hhead => ?_, ?_, ?_⟩
    · have hfirst : n.digits.head? = some '0' := by simpa [hcons] using hhead
      simp [(hzero hfirst).1]
    · dsimp only
      split
      · simp
      · rename_i hfraction
        rintro _ ⟨⟩
        exact ⟨by simpa using hfraction, fun c hc => hdigits c (List.mem_of_mem_drop hc)⟩
    · rintro _ ⟨⟩
      exact ⟨Nat.toDigits_ne_nil, fun _ hc => Nat.isDigit_of_mem_toDigits (by decide) (by decide) hc⟩

/-- **A finite number is written as a number of the grammar.** -/
theorem exists_lawful_render (f : Format) {word : Nat} (h : (f.datum word).isFinite) :
    ∃ n : NumberText, n.Lawful ∧ n.chars = (layout.render f word).toList := by
  have hfinite : word % f.signBit < f.infinity := by
    by_contra hlarge
    rw [Format.datum, if_neg hlarge] at h
    split at h <;> cases h
  have hbody : ∃ n : Numeral, n.Lawful ∧
      (if word % f.signBit = 0 then layout.write ⟨['0'], 0⟩
        else layout.write (shortest f layout.tie (word % f.signBit))) = layout.write n := by
    split
    · exact ⟨⟨['0'], 0⟩, ⟨by simp, by simp⟩, rfl⟩
    · rename_i hpos
      exact ⟨_, lawful_shortest f layout.tie (Nat.pos_of_ne_zero hpos), rfl⟩
  obtain ⟨n, hn, hbody⟩ := hbody
  refine ⟨layout.parts (decide (f.signBit ≤ word)) n, layout.lawful_parts _ hn, ?_⟩
  rw [render, if_neg (Nat.not_lt.mpr hfinite.le), if_neg hfinite.ne, decide_eq_true hfinite.le,
    Bool.and_true, hbody, chars_parts]
  split <;> simp

end Layout

end Decimal

end VehicleBus
