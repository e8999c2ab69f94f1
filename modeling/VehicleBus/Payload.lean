/-!
# Frame payloads

A payload is the data of one frame as a 64-bit word, the first byte sent in the
most significant place.  Bits are numbered byte by byte in the order of sending,
each byte from its most significant bit, and positions past the last byte read as
zero.

`bitField` collects a field bit by bit from its front, which is what makes
overruns harmless: a missing bit is just another zero.
-/

namespace VehicleBus

/-- The eight data bytes of a frame, the first one most significant. -/
abbrev Payload := UInt64

namespace Payload

/-- The data bytes in the order in which they are sent. -/
def bytes (data : Payload) : List UInt8 :=
  (List.range 8).map fun place => (data >>> UInt64.ofNat (8 * (7 - place))).toUInt8

/-- Bit `position` of a payload; no byte, no bit. -/
def bit (data : Payload) (position : Nat) : Bool :=
  match data.bytes[position / 8]? with
  | some byte => byte.toNat.testBit (7 - position % 8)
  | none => false

/-- The value of a sequence of bits, most significant first. -/
def valueOfBits (bits : List Bool) : Nat :=
  bits.foldl (fun value bit => 2 * value + bit.toNat) 0

/-- The field of `size` bits that starts at `position`, as an unsigned number.
A field wider than the payload is cut to 64 bits. -/
def bitField (data : Payload) (position size : Nat) : Nat :=
  valueOfBits ((List.range (min size 64)).map fun i => data.bit (position + i))

end Payload

end VehicleBus
