import VehicleBus.Text.Integer
import VehicleBus.Proofs.Text.Digits

/-!
# Unsigned integers that are read

A text is read as an unsigned integer exactly if it consists of digits, or of a plus sign
and digits, whose value is below the bound (`readUnsigned_eq_ok_iff`).  Leading zeros are
digits like others.
-/

namespace VehicleBus.Text

/-- Some characters, all of them digits of a base. -/
def IsNumeral (base : Nat) (digits : List Char) : Prop :=
  digits ≠ [] ∧ ∀ c ∈ digits, (digit? base c).isSome = true

/-! ## Digits of a base -/

/-- The three ranges of digits and their values. -/
theorem hexDigit?_eq_some {c : Char} {value : Nat} (h : hexDigit? c = some value) :
    (48 ≤ c.toNat ∧ c.toNat ≤ 57 ∧ c.toNat = 48 + value) ∨
      (97 ≤ c.toNat ∧ c.toNat ≤ 102 ∧ c.toNat = 87 + value) ∨
        (65 ≤ c.toNat ∧ c.toNat ≤ 70 ∧ c.toNat = 55 + value) := by
  have hnine : '9'.toNat = 57 := rfl
  have hf : 'f'.toNat = 102 := rfl
  have hF : 'F'.toNat = 70 := rfl
  have hzero : '0'.toNat = 48 := rfl
  have ha : 'a'.toNat = 97 := rfl
  have hA : 'A'.toNat = 65 := rfl
  simp only [hexDigit?, Char.le_def, UInt32.le_iff_toNat_le, Char.toNat_val] at h
  split at h
  · cases h
    omega
  · split at h
    · cases h
      omega
    · split at h
      · cases h
        omega
      · cases h

/-- A hexadecimal digit is worth less than sixteen. -/
theorem hexDigit?_lt {c : Char} {value : Nat} (h : hexDigit? c = some value) : value < 16 := by
  have hrange := hexDigit?_eq_some h
  omega

/-- The digits to a base are those worth less than it. -/
theorem isSome_digit?_iff {base : Nat} {c : Char} :
    (digit? base c).isSome = true ↔ ∃ value < base, hexDigit? c = some value := by
  rw [Option.isSome_iff_exists]
  simp only [digit?, Option.filter_eq_some_iff, decide_eq_true_eq]
  constructor
  · rintro ⟨value, hvalue, hlow⟩
    exact ⟨value, hlow, hvalue⟩
  · rintro ⟨value, hlow, hvalue⟩
    exact ⟨value, hvalue, hlow⟩

/-- The digits to base sixteen are the hexadecimal ones. -/
theorem isSome_digit?_sixteen {c : Char} : (digit? 16 c).isSome = true ↔ isHexDigit c = true := by
  rw [isSome_digit?_iff, isHexDigit, Option.isSome_iff_exists]
  constructor
  · rintro ⟨value, -, hvalue⟩
    exact ⟨value, hvalue⟩
  · rintro ⟨value, hvalue⟩
    exact ⟨value, hexDigit?_lt hvalue, hvalue⟩

theorem isSome_digit?_ten {c : Char} : (digit? 10 c).isSome = true ↔ c.isDigit = true := by
  have hdigit : c.isDigit = true ↔ '0' ≤ c ∧ c ≤ '9' := by
    rw [Char.isDigit, Bool.and_eq_true, decide_eq_true_eq, decide_eq_true_eq]
    rfl
  have hnine : '9'.toNat = 57 := rfl
  have hzero : '0'.toNat = 48 := rfl
  rw [isSome_digit?_iff, hdigit]
  constructor
  · rintro ⟨value, hlow, hvalue⟩
    have hrange := hexDigit?_eq_some hvalue
    rw [Char.le_def, Char.le_def, UInt32.le_iff_toNat_le, UInt32.le_iff_toNat_le, Char.toNat_val,
      Char.toNat_val, Char.toNat_val]
    omega
  · intro hrange
    refine ⟨c.toNat - '0'.toNat, ?_, if_pos hrange⟩
    rw [Char.le_def, Char.le_def, UInt32.le_iff_toNat_le, UInt32.le_iff_toNat_le, Char.toNat_val,
      Char.toNat_val, Char.toNat_val] at hrange
    omega

/-- No digit of any base is a plus sign. -/
theorem ne_plus_of_isSome_digit? {base : Nat} {c : Char} (h : (digit? base c).isSome = true) :
    c ≠ '+' := by
  rintro rfl
  cases h

/-! ## Reading -/

/-- A value does not fall when digits are put behind it. -/
theorem le_appendDigits {base : Nat} (hbase : 0 < base) (value : Nat) (digits : List Char) :
    value ≤ appendDigits base value digits := by
  induction digits generalizing value with
  | nil => exact Nat.le_refl _
  | cons c rest ih =>
      calc value ≤ value * base := Nat.le_mul_of_pos_right _ hbase
        _ ≤ value * base + (hexDigit? c).getD 0 := Nat.le_add_right _ _
        _ ≤ appendDigits base value (c :: rest) := ih _

/-- Digits are read on from a value.  It only grows, so that it stays below the bound if
it ends there. -/
theorem readDigits_eq_ok_iff {base bound value n : Nat} {digits : List Char} (hbase : 0 < base)
    (hvalue : value < bound) :
    readDigits base bound value digits = .ok n ↔
      (∀ c ∈ digits, (digit? base c).isSome = true) ∧ appendDigits base value digits = n ∧
        n < bound := by
  induction digits generalizing value with
  | nil =>
      simp only [readDigits, Except.ok.injEq, List.not_mem_nil, IsEmpty.forall_iff, implies_true,
        true_and]
      exact ⟨fun h => ⟨h, h ▸ hvalue⟩, fun h => h.1⟩
  | cons c rest ih =>
      rw [readDigits, List.forall_mem_cons]
      cases hdigit : digit? base c with
      | none => simp
      | some digit =>
          have hhex : hexDigit? c = some digit := (Option.filter_eq_some_iff.mp hdigit).1
          have happend : appendDigits base value (c :: rest) =
              appendDigits base (value * base + digit) rest := by
            rw [appendDigits, List.foldl_cons, hhex]
            rfl
          rw [happend]
          dsimp only
          split
          · rename_i hnext
            rw [ih hnext]
            simp
          · rename_i hnext
            constructor
            · intro h
              cases h
            · rintro ⟨-, rfl, hn⟩
              exact absurd (Nat.lt_of_le_of_lt (le_appendDigits hbase _ rest) hn) hnext

/-- **What is read as an unsigned integer**, and with which value. -/
theorem readUnsigned_eq_ok_iff {base bound n : Nat} {text : List Char} (hbase : 0 < base)
    (hbound : 0 < bound) :
    readUnsigned base bound text = .ok n ↔ ∃ digits, (text = digits ∨ text = '+' :: digits) ∧
      IsNumeral base digits ∧ valueOfDigits base digits = n ∧ n < bound := by
  constructor
  · intro hread
    rw [readUnsigned.eq_def] at hread
    split at hread
    · cases hread
    · cases hread
    · rename_i digits hne
      obtain ⟨hdigits, hvalue, hn⟩ := (readDigits_eq_ok_iff hbase hbound).mp hread
      exact ⟨digits, .inr rfl, ⟨hne, hdigits⟩, hvalue, hn⟩
    · rename_i hne _ _
      obtain ⟨hdigits, hvalue, hn⟩ := (readDigits_eq_ok_iff hbase hbound).mp hread
      exact ⟨text, .inl rfl, ⟨hne, hdigits⟩, hvalue, hn⟩
  · rintro ⟨digits, htext, ⟨hne, hdigits⟩, hvalue, hn⟩
    have hread := (readDigits_eq_ok_iff hbase hbound).mpr ⟨hdigits, hvalue, hn⟩
    obtain ⟨c, rest, rfl⟩ := List.exists_cons_of_ne_nil hne
    have hc : c ≠ '+' := ne_plus_of_isSome_digit? (hdigits c List.mem_cons_self)
    rcases htext with rfl | rfl
    · rw [readUnsigned.eq_def]
      split
      · contradiction
      · simp_all
      · simp_all
      · exact hread
    · exact hread

/-- A sign in front of digits does not count. -/
theorem valueOfDigits_plus (base : Nat) (digits : List Char) :
    valueOfDigits base ('+' :: digits) = valueOfDigits base digits := by
  rw [valueOfDigits, appendDigits, List.foldl_cons, Nat.zero_mul]
  rfl

end VehicleBus.Text
