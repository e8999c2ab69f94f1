import VehicleBus.Wire.Scalar
import VehicleBus.Proofs.Wire.Field

/-!
# Lawful scalar forms

A scalar form is lawful when what it writes is one field that fits, from which it
reads the same value again.  All six forms are lawful; only texts can be too long
to be written, so the law speaks of written fields that are shorter than 64 bits
can count.

The numeric forms lose nothing because the bits they drop are copies: a negative
32-bit number is written with 64 bits, and its low 32 bits are the number.
-/

namespace VehicleBus.Wire.Scalar

variable {α : Type}

/-- Every value is written as one field and read back from it. -/
def Lawful (scalar : Scalar α) : Prop :=
  ∀ (number : Nat) (value : α), (scalar.write number value).length < 2 ^ 64 →
    ∃ form : Value, form.Fits ∧ scalar.write number value = Field.bytes ⟨number, form⟩ ∧
      scalar.read form = some value

/-! ## Numbers -/

/-- The low 32 bits of the 64-bit form of a signed number are its own bits. -/
theorem toUInt32_eq_ofNat (value : Int32) :
    UInt32.ofNat (value.toInt % 0x10000000000000000).toNat = value.toUInt32 := by
  apply UInt32.toNat_inj.mp
  have hbits := BitVec.toInt_eq_toNat_cond value.toBitVec
  have hlt := value.toUInt32.toNat_lt
  rw [Int32.toInt_toBitVec, Int32.toNat_toBitVec] at hbits
  rw [UInt32.toNat_ofNat']
  split at hbits <;> omega

/-- Signed numbers of 32 bits are read back. -/
theorem int32_lawful : int32.Lawful := by
  intro number value _
  refine ⟨.varint (value.toInt % 0x10000000000000000).toNat, ?_, rfl, ?_⟩
  · show (value.toInt % 0x10000000000000000).toNat < 2 ^ 64
    omega
  · simp only [int32, toUInt32_eq_ofNat, Int32.toInt32_toUInt32]

theorem uint32_lawful : uint32.Lawful := by
  intro number value _
  refine ⟨.varint value.toNat, ?_, rfl, by simp [uint32]⟩
  show value.toNat < 2 ^ 64
  have := value.toNat_lt
  omega

theorem uint64_lawful : uint64.Lawful := by
  intro number value _
  exact ⟨.varint value.toNat, value.toNat_lt, rfl, by simp [uint64]⟩

theorem bool_lawful : bool.Lawful := by
  intro number value _
  refine ⟨.varint value.toNat, ?_, rfl, by cases value <;> rfl⟩
  show value.toNat < 2 ^ 64
  cases value <;> decide

/-! ## Words of eight bytes -/

/-- The first bytes of a number, the lowest first, stand for its remainder. -/
theorem littleEndian_range (count n : Nat) :
    littleEndian ((List.range count).map fun i => UInt8.ofNat (n / 256 ^ i)) =
      n % 256 ^ count := by
  induction count generalizing n with
  | zero => simp [littleEndian, Nat.mod_one]
  | succ count ih =>
      have hshift : ((List.range count).map Nat.succ).map
            (fun i => UInt8.ofNat (n / 256 ^ i)) =
          (List.range count).map fun i => UInt8.ofNat (n / 256 / 256 ^ i) := by
        rw [List.map_map]
        apply List.map_congr_left
        intro i _
        simp [Nat.div_div_eq_div_mul, Nat.pow_succ, Nat.mul_comm]
      have hbyte : (UInt8.ofNat n).toNat = n % 256 := UInt8.toNat_ofNat'
      have hsplit : n % 256 ^ (count + 1) = n % 256 + 256 * (n / 256 % 256 ^ count) := by
        rw [Nat.pow_succ, Nat.mul_comm, Nat.mod_mul]
      rw [List.range_succ_eq_map, List.map_cons, hshift, littleEndian, ih]
      simp [hbyte, hsplit]

/-- Floating-point numbers are read back bit by bit. -/
theorem double_lawful : double.Lawful := by
  intro number value _
  refine ⟨.fixed64 ((List.range 8).map fun i => UInt8.ofNat (value.bits.toNat / 256 ^ i)),
    ?_, rfl, ?_⟩
  · show List.length _ = 8
    simp
  · have hlt : value.bits.toNat < 256 ^ 8 := by simpa using value.bits.toNat_lt
    simp only [double, littleEndian_range, Nat.mod_eq_of_lt hlt, UInt64.ofNat_toNat]

/-! ## Texts -/

/-- The bytes of a text are a valid text again. -/
theorem fromUTF8?_toUTF8 (value : String) :
    String.fromUTF8? ⟨value.toUTF8.data.toList.toArray⟩ = some value := by
  have hvalid : value.toByteArray.IsValidUTF8 := value.isValidUTF8
  simp only [Array.toArray_toList, String.fromUTF8?]
  exact dif_pos hvalid

/-- Texts are read back. -/
theorem text_lawful : text.Lawful := by
  intro number value hlength
  refine ⟨.bytes value.toUTF8.data.toList, ?_, rfl, fromUTF8?_toUTF8 value⟩
  show value.toUTF8.data.toList.length < 2 ^ 64
  simp only [text, bytesField, List.length_append] at hlength
  omega

end VehicleBus.Wire.Scalar
