/-!
# Variable-length integers

A natural number is written in groups of seven bits, the lowest first, one byte
a group; every byte but the last has its top bit set.  At most ten bytes are
read, and the tenth may only add the 64th bit, so what is read fits 64 bits.
-/

namespace VehicleBus.Wire

/-- A sequence of bytes. -/
abbrev Bytes := List UInt8

/-- Write a natural number. -/
def varint (n : Nat) : Bytes :=
  if n < 128 then [UInt8.ofNat n] else UInt8.ofNat (n % 128 + 128) :: varint (n / 128)

/-- Read a number of at most `length` bytes; the last of them may only be zero
or one. -/
def readVarintWithin : (length : Nat) → Bytes → Option (Nat × Bytes)
  | 0, _ => none
  | _, [] => none
  | length + 1, byte :: rest =>
    if byte.toNat < 128 then
      if length = 0 ∧ 1 < byte.toNat then none else some (byte.toNat, rest)
    else
      match readVarintWithin length rest with
      | some (high, rest) => some (byte.toNat - 128 + 128 * high, rest)
      | none => none

/-- Read a number from the front of a sequence of bytes. -/
def readVarint (bytes : Bytes) : Option (Nat × Bytes) := readVarintWithin 10 bytes

end VehicleBus.Wire
