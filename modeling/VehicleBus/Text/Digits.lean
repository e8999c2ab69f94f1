/-!
# Digits

The value of single digits and of runs of digits in a base up to sixteen.  Only
ASCII digits and letters are digits.
-/

namespace VehicleBus.Text

/-- The value of a digit in base sixteen. -/
def hexDigit? (c : Char) : Option Nat :=
  if '0' ≤ c ∧ c ≤ '9' then some (c.toNat - '0'.toNat)
  else if 'a' ≤ c ∧ c ≤ 'f' then some (c.toNat - 'a'.toNat + 10)
  else if 'A' ≤ c ∧ c ≤ 'F' then some (c.toNat - 'A'.toNat + 10)
  else none

/-- The value of a digit in a base. -/
def digit? (base : Nat) (c : Char) : Option Nat :=
  (hexDigit? c).filter fun value => decide (value < base)

def isHexDigit (c : Char) : Bool := (hexDigit? c).isSome

/-- Append digits to a number; characters that are no digits count as zero. -/
def appendDigits (base : Nat) (value : Nat) (digits : List Char) : Nat :=
  digits.foldl (fun value c => value * base + (hexDigit? c).getD 0) value

/-- The number that digits stand for. -/
def valueOfDigits (base : Nat) (digits : List Char) : Nat := appendDigits base 0 digits

/-- Split a text behind its leading decimal digits. -/
def spanDigits (text : List Char) : List Char × List Char :=
  (text.takeWhile Char.isDigit, text.dropWhile Char.isDigit)

end VehicleBus.Text
