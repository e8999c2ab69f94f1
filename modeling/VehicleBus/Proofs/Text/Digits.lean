import Mathlib.Algebra.Group.Nat.Defs
import Mathlib.Data.List.TakeWhile
import VehicleBus.Text.Digits
import VehicleBus.Text.Hex

/-!
# Digits that are written and read

The digits of a number stand for that number again, in every base up to sixteen, and no
zero leads them.  In base sixteen it makes no difference whether letters are in upper or
in lower case.
-/

namespace VehicleBus.Text

/-! ## Single digits -/

/-- Every hexadecimal digit is read back. -/
theorem hexDigit?_digitChar {n : Nat} (h : n < 16) : hexDigit? n.digitChar = some n := by
  have hall : ∀ n < 16, hexDigit? n.digitChar = some n := by decide
  exact hall n h

theorem isHexDigit_digitChar {n : Nat} (h : n < 16) : isHexDigit n.digitChar = true := by
  rw [isHexDigit, hexDigit?_digitChar h]
  rfl

/-- The case of a letter does not matter. -/
theorem hexDigit?_toLower (c : Char) : hexDigit? c.toLower = hexDigit? c := by
  have hall : ∀ n < 91, 65 ≤ n → hexDigit? (Char.ofNat n).toLower = hexDigit? (Char.ofNat n) := by
    decide
  by_cases hupper : 'A'.val ≤ c.val ∧ c.val ≤ 'Z'.val
  · have hrange : 65 ≤ c.toNat ∧ c.toNat ≤ 90 := hupper
    rw [← Char.ofNat_toNat c]
    exact hall c.toNat (by omega) hrange.1
  · have hkept : c.toLower = c := dif_neg hupper
    rw [hkept]

/-! ## Runs of digits -/

theorem appendDigits_append (base value : Nat) (front back : List Char) :
    appendDigits base value (front ++ back) =
      appendDigits base (appendDigits base value front) back := List.foldl_append

theorem appendDigits_digitChar (base value : Nat) {n : Nat} (h : n < 16) :
    appendDigits base value [n.digitChar] = value * base + n := by
  simp [appendDigits, hexDigit?_digitChar h]

/-- The case of digits does not matter to their value. -/
theorem valueOfDigits_map_toLower (base : Nat) (digits : List Char) :
    valueOfDigits base (digits.map Char.toLower) = valueOfDigits base digits := by
  simp only [valueOfDigits, appendDigits, List.foldl_map, hexDigit?_toLower]

/-- Leading zeros do not count. -/
theorem valueOfDigits_replicate_append (base count : Nat) (digits : List Char) :
    valueOfDigits base (List.replicate count '0' ++ digits) = valueOfDigits base digits := by
  induction count with
  | zero => rfl
  | succ count ih =>
      rw [← ih, List.replicate_succ, List.cons_append, valueOfDigits, appendDigits, List.foldl_cons,
        Nat.zero_mul]
      rfl

/-- **Written digits are read back.** -/
theorem valueOfDigits_toDigits {base : Nat} (hbase : 1 < base) (hlimit : base ≤ 16) (n : Nat) :
    valueOfDigits base (Nat.toDigits base n) = n := by
  induction n using Nat.strong_induction_on with
  | h n ih =>
      rw [Nat.toDigits_eq_if hbase]
      split
      · rename_i hsmall
        rw [valueOfDigits, appendDigits_digitChar base 0 (Nat.lt_of_lt_of_le hsmall hlimit)]
        omega
      · rename_i hlarge
        have hpos : 0 < n := by omega
        have hdigit : n % base < 16 :=
          Nat.lt_of_lt_of_le (Nat.mod_lt n (Nat.lt_of_succ_lt hbase)) hlimit
        have hfront : appendDigits base 0 (Nat.toDigits base (n / base)) = n / base :=
          ih (n / base) (Nat.div_lt_self hpos hbase)
        rw [valueOfDigits, appendDigits_append, hfront, appendDigits_digitChar base _ hdigit,
          Nat.div_add_mod']

/-- No zero leads the digits of a positive number. -/
theorem head?_toDigits_ne_zero {base n : Nat} (hbase : 1 < base) (hpos : 0 < n) :
    (Nat.toDigits base n).head? ≠ some '0' := by
  induction n using Nat.strong_induction_on with
  | h n ih =>
      rw [Nat.toDigits_eq_if hbase]
      split
      · rw [List.head?_cons, ne_eq, Option.some.injEq, Nat.digitChar_eq_zero]
        omega
      · rename_i hlarge
        have hquotient : 0 < n / base := Nat.div_pos (Nat.not_lt.mp hlarge) (Nat.lt_of_succ_lt hbase)
        have hfront := ih (n / base) (Nat.div_lt_self hpos hbase) hquotient
        cases hdigits : Nat.toDigits base (n / base) with
        | nil => exact absurd hdigits Nat.toDigits_ne_nil
        | cons c rest =>
            rw [hdigits] at hfront
            exact hfront

theorem isHexDigit_of_mem_toDigits {n : Nat} {c : Char} (h : c ∈ Nat.toDigits 16 n) :
    isHexDigit c = true := by
  induction n using Nat.strong_induction_on with
  | h n ih =>
      rw [Nat.toDigits_eq_if (by decide)] at h
      split at h
      · rename_i hsmall
        rw [List.mem_singleton.mp h]
        exact isHexDigit_digitChar hsmall
      · rename_i hlarge
        rcases List.mem_append.mp h with hfront | hlast
        · exact ih (n / 16) (Nat.div_lt_self (by omega) (by decide)) hfront
        · rw [List.mem_singleton.mp hlast]
          exact isHexDigit_digitChar (Nat.mod_lt n (by decide))

/-! ## Hexadecimal text -/

/-- A number is padded with zeros to its width. -/
theorem toList_lowerHex (width n : Nat) :
    (lowerHex width n).toList =
      List.replicate (width - (Nat.toDigits 16 n).length) '0' ++ Nat.toDigits 16 n := by
  rw [lowerHex, String.toList_ofList]

/-- A number that fits its width is as long as this. -/
theorem length_lowerHex {width n : Nat} (hwidth : 0 < width) (h : n < 16 ^ width) :
    (lowerHex width n).toList.length = width := by
  have hlength : (Nat.toDigits 16 n).length ≤ width :=
    (Nat.length_toDigits_le_iff (by decide) hwidth).mpr h
  rw [toList_lowerHex, List.length_append, List.length_replicate]
  omega

theorem isHexDigit_of_mem_lowerHex {width n : Nat} {c : Char} (h : c ∈ (lowerHex width n).toList) :
    isHexDigit c = true := by
  rw [toList_lowerHex] at h
  rcases List.mem_append.mp h with hzero | hdigit
  · rw [List.eq_of_mem_replicate hzero]
    rfl
  · exact isHexDigit_of_mem_toDigits hdigit

/-- Padding does not change the value. -/
theorem valueOfDigits_lowerHex (width n : Nat) :
    valueOfDigits 16 (lowerHex width n).toList = n := by
  rw [toList_lowerHex, valueOfDigits_replicate_append,
    valueOfDigits_toDigits (by decide) (by decide)]

/-! ## Splitting digits off -/

/-- Digits are split off up to the first character that is none. -/
theorem spanDigits_append {digits rest : List Char} (hdigits : ∀ c ∈ digits, c.isDigit)
    (hrest : ∀ c ∈ rest.head?, ¬ c.isDigit) : spanDigits (digits ++ rest) = (digits, rest) := by
  have hnone : rest.takeWhile Char.isDigit = [] ∧ rest.dropWhile Char.isDigit = rest := by
    cases rest with
    | nil => exact ⟨rfl, rfl⟩
    | cons c rest =>
        have hc : ¬ c.isDigit := hrest c rfl
        simp [hc]
  rw [spanDigits, List.takeWhile_append_of_pos hdigits, List.dropWhile_append_of_pos hdigits,
    hnone.1, hnone.2, List.append_nil]

end VehicleBus.Text
