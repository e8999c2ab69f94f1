import VehicleBus.Wire.Field
import VehicleBus.Binary.Binary64

/-!
# Scalar forms

How values of one type are written as a field and read from one.  A reader
accepts a field in the right wire form and drops bits that the type has no room
for; every other wire form is refused.
-/

namespace VehicleBus.Wire

/-- A way to keep values of a type in a field. -/
structure Scalar (α : Type) where
  /-- The bytes of the field with a given number. -/
  write : Nat → α → Bytes
  read : Value → Option α

namespace Scalar

/-- Signed 32-bit numbers, negative ones as if they had 64 bits. -/
def int32 : Scalar Int32 where
  write number value := varintField number (value.toInt % 0x10000000000000000).toNat
  read
    | .varint value => some (UInt32.ofNat value).toInt32
    | _ => none

def uint32 : Scalar UInt32 where
  write number value := varintField number value.toNat
  read
    | .varint value => some (UInt32.ofNat value)
    | _ => none

def uint64 : Scalar UInt64 where
  write number value := varintField number value.toNat
  read
    | .varint value => some (UInt64.ofNat value)
    | _ => none

/-- Truth values; every number but zero is true. -/
def bool : Scalar Bool where
  write number value := varintField number value.toNat
  read
    | .varint value => some (value != 0)
    | _ => none

/-- The number that bytes stand for, the lowest byte first. -/
def littleEndian : Bytes → Nat
  | [] => 0
  | byte :: rest => byte.toNat + 256 * littleEndian rest

def double : Scalar Binary64 where
  write number value := fixed64Field number value.bits
  read
    | .fixed64 bytes => some ⟨UInt64.ofNat (littleEndian bytes)⟩
    | _ => none

/-- Texts in UTF-8. -/
def text : Scalar String where
  write number value := bytesField number value.toUTF8.data.toList
  read
    | .bytes bytes => String.fromUTF8? ⟨bytes.toArray⟩
    | _ => none

/-- The bytes of a field that may be absent. -/
def writeOption {α : Type} (scalar : Scalar α) (number : Nat) : Option α → Bytes
  | none => []
  | some value => scalar.write number value

end Scalar

end VehicleBus.Wire
