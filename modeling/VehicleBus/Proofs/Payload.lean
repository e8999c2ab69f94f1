import Mathlib.Algebra.Group.Nat.Defs
import Mathlib.Data.List.Induction
import Mathlib.Tactic.Ring
import VehicleBus.Payload

/-!
# Bit fields as numbers

A field is read bit by bit out of eight bytes.  Seen as a number it is a window of the
payload: the payload followed by zeros without end, divided by the power of two that
stands behind the field, and cut to the width of the field
(`Payload.bitField_window`).

Everything follows from the single bits.  Where a bit stands in its byte and where the
byte stands in the word add up to one place in the word (`Payload.bit_eq`), and a bit
of a field is a bit of the payload (`Payload.testBit_bitField`).
-/

namespace VehicleBus.Payload

/-! ## Bits -/

/-- A byte of a payload is a quotient modulo 256. -/
theorem toNat_byte {place : Nat} (h : place < 8) (data : Payload) :
    (data >>> UInt64.ofNat (8 * (7 - place))).toUInt8.toNat =
      data.toNat / 2 ^ (8 * (7 - place)) % 2 ^ 8 := by
  have hshift : (UInt64.ofNat (8 * (7 - place))).toNat % 64 = 8 * (7 - place) := by
    rw [UInt64.toNat_ofNat']
    omega
  rw [UInt64.toNat_toUInt8, UInt64.toNat_shiftRight, hshift, Nat.shiftRight_eq_div_pow]

/-- Bits are counted from the most significant one of the word. -/
theorem bit_eq (data : Payload) (position : Nat) :
    data.bit position = (decide (position < 64) && data.toNat.testBit (63 - position)) := by
  by_cases hposition : position < 64
  · have hplace : position / 8 < 8 := by omega
    have hbyte : data.bytes[position / 8]? =
        some (data >>> UInt64.ofNat (8 * (7 - position / 8))).toUInt8 := by
      simp [bytes, hplace]
    have hbit : 7 - position % 8 < 8 := by omega
    have hsum : 7 - position % 8 + 8 * (7 - position / 8) = 63 - position := by omega
    simp only [bit, hbyte, toNat_byte hplace, Nat.testBit_mod_two_pow, Nat.testBit_div_two_pow,
      hsum, hbit, hposition]
  · have hbyte : data.bytes[position / 8]? = none := by
      rw [List.getElem?_eq_none_iff]
      simp only [bytes, List.length_map, List.length_range]
      omega
    simp [bit, hbyte, hposition]

/-! ## Values of bits -/

/-- One bit more stands in the lowest place. -/
theorem valueOfBits_append_singleton (bits : List Bool) (bit : Bool) :
    valueOfBits (bits ++ [bit]) = 2 * valueOfBits bits + bit.toNat := by
  simp [valueOfBits]

/-- Bits behind others double the value of those in front. -/
theorem valueOfBits_append (front back : List Bool) :
    valueOfBits (front ++ back) = valueOfBits front * 2 ^ back.length + valueOfBits back := by
  induction back using List.reverseRecOn with
  | nil => simp [valueOfBits]
  | append_singleton back bit ih =>
      rw [← List.append_assoc, valueOfBits_append_singleton, valueOfBits_append_singleton, ih,
        List.length_append, List.length_singleton, Nat.pow_succ]
      ring

/-- The bits of a value are the bits that were read, the last one least significant. -/
theorem testBit_valueOfBits (bits : List Bool) (place : Nat) :
    (valueOfBits bits).testBit place = bits.reverse[place]?.getD false := by
  induction bits using List.reverseRecOn generalizing place with
  | nil => simp [valueOfBits]
  | append_singleton bits bit ih =>
      rw [valueOfBits_append_singleton, List.reverse_concat]
      cases place with
      | zero => cases bit <;> simp [Nat.testBit_zero]
      | succ place =>
          have hhalf : (2 * valueOfBits bits + bit.toNat) / 2 = valueOfBits bits := by
            have hbit := bit.toNat_le
            omega
          rw [Nat.testBit_succ, hhalf, ih, List.getElem?_cons_succ]

/-! ## Fields -/

/-- A bit of a field is a bit of the payload. -/
theorem testBit_bitField (data : Payload) (position size place : Nat) :
    (data.bitField position size).testBit place =
      (decide (place < min size 64) && data.bit (position + (min size 64 - 1 - place))) := by
  rw [bitField, testBit_valueOfBits]
  by_cases hplace : place < min size 64
  · have hread : min size 64 - 1 - place < min size 64 := by omega
    rw [List.getElem?_reverse (by simpa using hplace), List.length_map, List.length_range,
      List.getElem?_map, List.getElem?_range hread]
    simp [hplace]
  · simp [hplace]

/-- Adjacent fields make one field. -/
theorem bitField_add (data : Payload) (position : Nat) {front back : Nat}
    (h : front + back ≤ 64) :
    data.bitField position (front + back) =
      data.bitField position front * 2 ^ back + data.bitField (position + front) back := by
  have hfront : min front 64 = front := by omega
  have hback : min back 64 = back := by omega
  have hsplit : (fun i => data.bit (position + i)) ∘ (fun i => front + i) =
      fun i => data.bit (position + front + i) := by
    funext i
    rw [Function.comp_apply, Nat.add_assoc]
  rw [bitField, bitField, bitField, Nat.min_eq_left h, hfront, hback, List.range_add,
    List.map_append, List.map_map, hsplit, valueOfBits_append, List.length_map, List.length_range]

/-- A field is a window of the payload with enough zeros behind it. -/
theorem bitField_eq_window (data : Payload) {position zeros : Nat} (h : position ≤ zeros)
    (size : Nat) :
    data.bitField position size =
      data.toNat * 2 ^ zeros / 2 ^ (zeros + 64 - position - min size 64) % 2 ^ min size 64 := by
  apply Nat.eq_of_testBit_eq
  intro place
  rw [testBit_bitField, bit_eq, Nat.testBit_mod_two_pow, Nat.testBit_div_two_pow,
    Nat.testBit_mul_two_pow]
  by_cases hplace : place < min size 64
  · have hwidth : min size 64 ≤ 64 := Nat.min_le_right _ _
    by_cases hinside : position + (min size 64 - 1 - place) < 64
    · have hreal : zeros ≤ place + (zeros + 64 - position - min size 64) := by omega
      have hsame : 63 - (position + (min size 64 - 1 - place)) =
          place + (zeros + 64 - position - min size 64) - zeros := by omega
      simp only [hplace, hinside, hreal, hsame]
    · have hzero : ¬ zeros ≤ place + (zeros + 64 - position - min size 64) := by omega
      simp only [hplace, hinside, hzero, decide_false, Bool.false_and]
  · simp only [hplace, decide_false, Bool.false_and]

/-- Inside the payload the zeros do not matter. -/
theorem bitField_eq_shift (data : Payload) {position size : Nat} (hsize : 1 ≤ size)
    (hinside : position + size ≤ 64) :
    data.bitField position size =
      (data >>> UInt64.ofNat (64 - position - size)).toNat % 2 ^ size := by
  have hwidth : min size 64 = size := by omega
  have hpower : position + 64 - position - size = position + (64 - position - size) := by omega
  have hshift : (UInt64.ofNat (64 - position - size)).toNat % 64 = 64 - position - size := by
    rw [UInt64.toNat_ofNat']
    omega
  rw [bitField_eq_window data (Nat.le_refl position), hwidth, hpower, Nat.pow_add,
    Nat.mul_comm data.toNat, Nat.mul_div_mul_left _ _ (Nat.two_pow_pos position),
    UInt64.toNat_shiftRight, hshift, Nat.shiftRight_eq_div_pow]

/-- **A field is a window of the payload.**  For every payload and every position and
size that a byte can hold, also where the field runs over the end of the payload, starts
behind it or is wider than 64 bits: the field is the quotient and remainder that the
window stands for; its bits, from the front, are those of the payload and zeros behind
it; inside the payload it is a shift and a remainder; and adjacent fields make one. -/
theorem bitField_window (data : Payload) (position size : UInt8) :
    let width := min size.toNat 64
    let field := data.bitField position.toNat size.toNat
    field = data.toNat * 2 ^ 512 / 2 ^ (512 + 64 - position.toNat - width) % 2 ^ width ∧
      (∀ i < width, field.testBit (width - 1 - i) =
        if position.toNat + i < 64 then data.toNat.testBit (63 - (position.toNat + i)) else false) ∧
      (1 ≤ size.toNat → position.toNat + size.toNat ≤ 64 →
        field = (data >>> UInt64.ofNat (64 - position.toNat - size.toNat)).toNat % 2 ^ size.toNat) ∧
      ∀ front back, front + back ≤ 64 →
        data.bitField position.toNat (front + back) =
          data.bitField position.toNat front * 2 ^ back +
            data.bitField (position.toNat + front) back := by
  intro width field
  have hposition : position.toNat ≤ 512 := by
    have hbyte := position.toNat_lt
    omega
  refine ⟨data.bitField_eq_window hposition size.toNat, ?_, ?_, ?_⟩
  · intro i hi
    have hplace : width - 1 - i < min size.toNat 64 := by omega
    have hback : min size.toNat 64 - 1 - (width - 1 - i) = i := by omega
    rw [testBit_bitField, hback, bit_eq]
    simp [hplace]
  · exact data.bitField_eq_shift
  · exact fun front back h => data.bitField_add position.toNat h

/-- Twelve bits across the first two bytes. -/
theorem bitField_window_two_bytes :
    let data : Payload := 0x0123456789ABCDEF
    1 ≤ (12 : UInt8).toNat ∧ (4 : UInt8).toNat + (12 : UInt8).toNat ≤ 64 ∧
      data.bitField 4 12 = (data >>> 48).toNat % 2 ^ 12 ∧
      data.bitField 4 12 = data.bitField 4 4 * 2 ^ 8 + data.bitField 8 8 ∧
      data.bitField 4 12 = 0x123 := by
  intro data
  have hsize : 1 ≤ (12 : UInt8).toNat := by decide
  have hinside : (4 : UInt8).toNat + (12 : UInt8).toNat ≤ 64 := by decide
  obtain ⟨-, -, hshift, hadd⟩ := bitField_window data 4 12
  have hfield : data.bitField 4 12 = (data >>> 48).toNat % 2 ^ 12 := hshift hsize hinside
  exact ⟨hsize, hinside, hfield, hadd 4 8 (by decide), hfield.trans (by decide)⟩

/-- Four bits are read and four are missing. -/
example : bitField 0xFF 60 8 = 0xF0 := by decide +kernel

end VehicleBus.Payload
