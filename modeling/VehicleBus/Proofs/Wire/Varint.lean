import Mathlib.Algebra.Group.Nat.Defs
import VehicleBus.Wire.Varint

/-!
# Variable-length integers read back

A written number of at most 64 bits is read back from the front of any sequence
of bytes, and what follows it is left as it is.

The two sides meet in the number of groups.  Reading `length + 1` bytes reaches
every number below `2 * 128 ^ length`: each byte but the last adds seven bits,
and the last one may only add a single bit.  Ten bytes reach `2 ^ 64`.
-/

namespace VehicleBus.Wire

theorem toNat_ofNat_of_lt_256 {n : Nat} (h : n < 256) : (UInt8.ofNat n).toNat = n :=
  UInt8.toNat_ofNat_of_lt' h

/-- A number below 128 is written as one byte. -/
theorem varint_of_lt {n : Nat} (h : n < 128) : varint n = [UInt8.ofNat n] := by
  rw [varint, if_pos h]

/-- A larger number is written as its lowest seven bits, marked, and the rest. -/
theorem varint_of_ge {n : Nat} (h : 128 ≤ n) :
    varint n = UInt8.ofNat (n % 128 + 128) :: varint (n / 128) := by
  rw [varint, if_neg (by omega)]

/-- Every number takes at least one byte. -/
theorem varint_length_pos (n : Nat) : 0 < (varint n).length := by
  by_cases h : n < 128
  · simp [varint_of_lt h]
  · simp [varint_of_ge (Nat.le_of_not_lt h)]

/-- A number below `128 ^ groups` takes no more than `groups` bytes. -/
theorem varint_length_le {groups n : Nat} (h : n < 128 ^ (groups + 1)) :
    (varint n).length ≤ groups + 1 := by
  induction groups generalizing n with
  | zero => simp [varint_of_lt (by simpa using h)]
  | succ groups ih =>
      by_cases hn : n < 128
      · simp [varint_of_lt hn]
      · have hhigh : n / 128 < 128 ^ (groups + 1) := by
          rw [Nat.pow_succ] at h
          exact Nat.div_lt_of_lt_mul (by omega)
        have htail := ih hhigh
        simp only [varint_of_ge (Nat.le_of_not_lt hn), List.length_cons]
        omega

/-- Greater numbers take no fewer bytes. -/
theorem varint_length_mono {m n : Nat} (h : m ≤ n) :
    (varint m).length ≤ (varint n).length := by
  induction n using Nat.strongRecOn generalizing m with
  | ind n ih =>
      by_cases hm : m < 128
      · rw [varint_of_lt hm]
        exact varint_length_pos n
      · have hn : 128 ≤ n := by omega
        have hhigh := ih (n / 128) (by omega) (Nat.div_le_div_right (c := 128) h)
        simpa [varint_of_ge hn, varint_of_ge (Nat.le_of_not_lt hm)] using hhigh

/-- Reading `length + 1` bytes gives back a number below `2 * 128 ^ length`,
whatever stands behind it. -/
theorem readVarintWithin_append (length : Nat) {n : Nat} (h : n < 2 * 128 ^ length)
    (rest : Bytes) :
    readVarintWithin (length + 1) (varint n ++ rest) = some (n, rest) := by
  induction length generalizing n with
  | zero =>
      have hbyte : (UInt8.ofNat n).toNat = n := toNat_ofNat_of_lt_256 (by omega)
      rw [varint_of_lt (by omega)]
      simp only [List.singleton_append, readVarintWithin, hbyte]
      rw [if_pos (by omega), if_neg (by omega)]
  | succ length ih =>
      by_cases hn : n < 128
      · have hbyte : (UInt8.ofNat n).toNat = n := toNat_ofNat_of_lt_256 (by omega)
        rw [varint_of_lt hn]
        simp only [List.singleton_append, readVarintWithin, hbyte]
        rw [if_pos hn, if_neg (by omega)]
      · have hbyte : (UInt8.ofNat (n % 128 + 128)).toNat = n % 128 + 128 :=
          toNat_ofNat_of_lt_256 (by omega)
        have hhigh : n / 128 < 2 * 128 ^ length := by
          rw [Nat.pow_succ] at h
          exact Nat.div_lt_of_lt_mul (by omega)
        rw [varint_of_ge (Nat.le_of_not_lt hn), List.cons_append, readVarintWithin, hbyte,
          if_neg (by omega), ih hhigh]
        have hsplit : n % 128 + 128 - 128 + 128 * (n / 128) = n := by omega
        simp only [hsplit]

/-- **Numbers read back.**  A written number of at most 64 bits is read from the
front of any bytes. -/
theorem readVarint_append {n : Nat} (h : n < 2 ^ 64) (rest : Bytes) :
    readVarint (varint n ++ rest) = some (n, rest) :=
  readVarintWithin_append 9 (by simpa using h) rest

/-- Reading a number uses up at least one byte. -/
theorem readVarintWithin_length_lt {length n : Nat} {bytes rest : Bytes}
    (h : readVarintWithin length bytes = some (n, rest)) : rest.length < bytes.length := by
  induction length generalizing n bytes rest with
  | zero => simp [readVarintWithin] at h
  | succ length ih =>
      cases bytes with
      | nil => simp [readVarintWithin] at h
      | cons byte tail =>
          simp only [readVarintWithin] at h
          split at h
          · split at h
            · cases h
            · cases h
              simp
          · split at h
            next high left hhigh =>
              cases h
              have := ih hhigh
              simp only [List.length_cons]
              omega
            next => cases h

end VehicleBus.Wire
