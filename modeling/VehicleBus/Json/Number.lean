import VehicleBus.Node
import VehicleBus.Text.Digits

/-!
# Numbers in JSON texts

A number is split by the grammar first and valued afterwards.  Whole numbers
that fit 64 bits are integers; all others are scaled in one or two rounded steps
from the leading digits that fit 64 bits, which may differ from the nearest
value in the last place.
-/

namespace VehicleBus.Json

/-- A number by its parts. -/
structure NumberText where
  negative : Bool
  whole : List Char
  /-- Digits behind the point, `none` without a point. -/
  fraction : Option (List Char)
  /-- Sign and digits of the exponent. -/
  exponent : Option (Bool × List Char)
deriving Repr

/-- Read an exponent, its letter included. -/
def readExponent (text : List Char) : Option (Option (Bool × List Char) × List Char) :=
  match text with
  | c :: rest =>
    if c = 'e' ∨ c = 'E' then
      let (negative, rest) := match rest with
        | '-' :: rest => (true, rest)
        | '+' :: rest => (false, rest)
        | rest => (false, rest)
      let (digits, rest) := Text.spanDigits rest
      if digits.isEmpty then none else some (some (negative, digits), rest)
    else some (none, text)
  | [] => some (none, [])

/-- Read a fraction, its point included. -/
def readFraction (text : List Char) : Option (Option (List Char) × List Char) :=
  match text with
  | '.' :: rest =>
    let (digits, rest) := Text.spanDigits rest
    if digits.isEmpty then none else some (some digits, rest)
  | _ => some (none, text)

/-- Read a number from the front of a text.  No zero may lead other digits. -/
def readNumber (text : List Char) : Option (NumberText × List Char) := do
  let (negative, text) := match text with
    | '-' :: rest => (true, rest)
    | text => (false, text)
  let (whole, text) := Text.spanDigits text
  match whole with
  | [] => none
  | '0' :: _ :: _ => none
  | _ =>
    let (fraction, text) ← readFraction text
    let (exponent, text) ← readExponent text
    return ({ negative, whole, fraction, exponent }, text)

/-- The leading digits of a number as far as they fit 64 bits. -/
structure Significand where
  value : Nat := 0
  /-- The power of ten that the value is multiplied with. -/
  exponent : Int := 0
  /-- Did a digit not fit? -/
  full : Bool := false
deriving Repr

namespace Significand

/-- Take a digit before the point; once one does not fit, all that follow only
count as a factor of ten. -/
def takeWhole (s : Significand) (c : Char) : Significand :=
  let next := Text.appendDigits 10 s.value [c]
  if s.full || decide (UInt64.size ≤ next) then { s with exponent := s.exponent + 1, full := true }
  else { s with value := next }

/-- Take a digit behind the point; one that does not fit is dropped with all
that follow. -/
def takeFraction (s : Significand) (c : Char) : Significand :=
  let next := Text.appendDigits 10 s.value [c]
  if s.full || decide (UInt64.size ≤ next) then { s with full := true }
  else { s with value := next, exponent := s.exponent - 1 }

end Significand

/-- The nearest value to a power of ten. -/
def powerOfTen (n : Nat) : Binary64 := Binary64.ofDecimal false 1 n

/-- Scale a magnitude by a power of ten.  Powers of ten end at 10^308, so smaller
numbers are divided in steps; after three of them every magnitude is zero. -/
def scale : (steps : Nat) → Binary64 → Int → Option Binary64
  | steps, magnitude, exponent =>
    if exponent.natAbs ≤ 308 then
      if 0 ≤ exponent then
        let scaled := magnitude * powerOfTen exponent.natAbs
        if scaled.isFinite then some scaled else none
      else some (magnitude / powerOfTen exponent.natAbs)
    else if magnitude.same Binary64.zero then some magnitude
    else if 0 ≤ exponent then none
    else
      match steps with
      | 0 => some Binary64.zero
      | steps + 1 => scale steps (magnitude / powerOfTen 308) (exponent + 308)

/-- Exponents have at most this size. -/
def exponentLimit : Nat := Nat.pow 2 31

/-- The magnitude of a number, `none` beyond every finite one. -/
def NumberText.magnitude (n : NumberText) : Option Binary64 :=
  let whole := n.whole.foldl Significand.takeWhole {}
  let s := (n.fraction.getD []).foldl Significand.takeFraction { whole with full := false }
  let magnitude := Binary64.ofNat s.value
  match n.exponent with
  | none => scale 4 magnitude s.exponent
  | some (negative, digits) =>
    let exponent := Text.valueOfDigits 10 digits
    if exponent < exponentLimit then
      scale 4 magnitude (if negative then s.exponent - exponent else s.exponent + exponent)
    else if s.value ≠ 0 ∧ !negative then none
    else some Binary64.zero

/-- The value of a number.  Negative zero is no integer. -/
def NumberText.node (n : NumberText) : Node :=
  let value := Text.valueOfDigits 10 n.whole
  if n.fraction.isNone ∧ n.exponent.isNone ∧ !n.negative ∧ value < UInt64.size then .integer value
  else if n.fraction.isNone ∧ n.exponent.isNone ∧ n.negative ∧ 0 < value ∧ value ≤ Nat.pow 2 63 then
    .integer (-value)
  else
    match n.magnitude with
    | some magnitude => .real (if n.negative then -magnitude else magnitude)
    | none => .unusable

end VehicleBus.Json
