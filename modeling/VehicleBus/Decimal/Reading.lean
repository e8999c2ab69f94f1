import VehicleBus.Binary.Binary64
import VehicleBus.Text.Digits

/-!
# Reading decimals

A decimal number in a text: an optional sign, digits with at most one point
among or around them, and an optional exponent; or one of the words for infinity
and for no number, in any case.  The value is the nearest one.
-/

namespace VehicleBus

namespace Decimal

/-- Why a text is no decimal number. -/
inductive DecimalFault where
  | empty
  | invalid
deriving DecidableEq, Repr

namespace DecimalFault

def message : DecimalFault → String
  | empty => "cannot parse float from empty string"
  | invalid => "invalid float literal"

end DecimalFault

/-- Split a sign off the front of a text: is it a minus sign? -/
def splitSign : List Char → Bool × List Char
  | '-' :: rest => (true, rest)
  | '+' :: rest => (false, rest)
  | rest => (false, rest)

/-- Read the rest of a number behind its digits as a power of ten. -/
def readPower : List Char → Option Int
  | [] => some 0
  | c :: rest =>
    if c = 'e' ∨ c = 'E' then
      let (negative, digits) := splitSign rest
      if digits.isEmpty || !digits.all Char.isDigit then none
      else
        let power := Text.valueOfDigits 10 digits
        some (if negative then -power else power)
    else none

/-- Read an unsigned number as a coefficient and a power of ten. -/
def readMagnitude (text : List Char) : Option (Nat × Int) :=
  let (whole, rest) := Text.spanDigits text
  let (fraction, rest) := match rest with
    | '.' :: rest => Text.spanDigits rest
    | rest => ([], rest)
  if whole.isEmpty && fraction.isEmpty then none
  else
    (readPower rest).map fun power =>
      (Text.valueOfDigits 10 (whole ++ fraction), power - fraction.length)

/-- The value of a word that stands for no finite number. -/
def readSpecial (negative : Bool) (text : List Char) : Option Binary64 :=
  let word := String.ofList (text.map Char.toLower)
  if word = "inf" ∨ word = "infinity" then some (Binary64.infinity negative)
  else if word = "nan" then some (Binary64.nan negative)
  else none

end Decimal

namespace Binary64

open Decimal

/-- Read a decimal number. -/
def ofText (text : List Char) : Except DecimalFault Binary64 :=
  if text.isEmpty then .error .empty
  else
    let (negative, rest) := splitSign text
    match readMagnitude rest with
    | some (coefficient, power) => .ok (Binary64.ofDecimal negative coefficient power)
    | none =>
      match readSpecial negative rest with
      | some value => .ok value
      | none => .error .invalid

end Binary64

end VehicleBus
