/-!
# Hexadecimal text

Numbers in base sixteen.  Identifiers inside sentences use upper case and no
padding; data bytes use lower case and two digits.
-/

namespace VehicleBus.Text

/-- A number in upper case digits, without leading zeros. -/
def upperHex (n : Nat) : String :=
  String.ofList ((Nat.toDigits 16 n).map Char.toUpper)

/-- A number in lower case digits, padded with zeros on the left. -/
def lowerHex (width n : Nat) : String :=
  let digits := Nat.toDigits 16 n
  String.ofList (List.replicate (width - digits.length) '0' ++ digits)

/-- Two lower case digits for one byte. -/
def byteHex (byte : UInt8) : String := lowerHex 2 byte.toNat

/-- Bytes as pairs of digits with blanks between them. -/
def hexDump (bytes : List UInt8) : String :=
  " ".intercalate (bytes.map byteHex)

end VehicleBus.Text
