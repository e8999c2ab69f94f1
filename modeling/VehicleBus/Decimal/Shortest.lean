import VehicleBus.Binary.Format

/-!
# Shortest decimals

A finite floating-point number stands for an interval of reals: all those that
round to it.  This file picks the decimal with the fewest digits in that
interval, and of those the one nearest to the number.

Grids of powers of ten are tried from the coarsest that can hold a digit of the
number.  A grid with a point in the interval has one among the two neighbours of
the number on it, so two tests a grid are enough.
-/

namespace VehicleBus.Decimal

open Binary

/-- A decimal `d₁.d₂d₃… * 10 ^ lead` by its digits. -/
structure Numeral where
  digits : List Char
  lead : Int
deriving DecidableEq, Repr

/-- Which of two equally near and equally short decimals is taken. -/
inductive Tie where
  | even
  | up
deriving DecidableEq, Repr

/-- Number of decimal digits of a natural number. -/
def digitCount (n : Nat) : Nat := (Nat.toDigits 10 n).length

/-- The numeral of `coefficient * 10 ^ exponent`, without trailing zeros. -/
def Numeral.ofScaled (coefficient : Nat) (exponent : Int) : Numeral :=
  let digits := Nat.toDigits 10 coefficient
  { digits := (digits.reverse.dropWhile (· == '0')).reverse
    lead := exponent + digits.length - 1 }

/-- Compare `coefficient * 10 ^ exponent` with `amount` quarter units. -/
def compareQuarters (f : Format) (coefficient : Nat) (exponent : Int) (amount : Nat) : Ordering :=
  compare (coefficient * Nat.pow 10 exponent.toNat * (4 * f.one)) (amount * Nat.pow 10 (-exponent).toNat)

/-- Does `coefficient * 10 ^ exponent` round to the magnitude word `w`?  The
ends of the interval belong to it exactly when the significand is even, and the
gap below a power of two is half as wide as the gap above. -/
def readsBack (f : Format) (w coefficient : Nat) (exponent : Int) : Bool :=
  let gap := Nat.pow 2 (f.shift w)
  let narrow := decide (f.significand w = Nat.pow 2 f.fractionBits) && decide (0 < f.shift w)
  let closed := f.significand w % 2 == 0
  let low := 4 * f.units w - (if narrow then gap else 2 * gap)
  let high := 4 * f.units w + 2 * gap
  let fromLow := compareQuarters f coefficient exponent low
  let fromHigh := compareQuarters f coefficient exponent high
  (fromLow == .gt || (closed && fromLow == .eq)) && (fromHigh == .lt || (closed && fromHigh == .eq))

/-- The least `k` with the magnitude of `w` below `10 ^ k`. -/
def magnitudeBound (f : Format) (w : Nat) : Int :=
  let units := f.units w
  if f.one ≤ units then digitCount (units / f.one)
  else 1 - (digitCount ((f.one - 1) / units) : Int)

/-- The best decimal for `w` among the multiples of `10 ^ exponent`, if one of
them reads back. -/
def onGrid (f : Format) (tie : Tie) (w : Nat) (exponent : Int) : Option Nat :=
  let below := f.units w * Nat.pow 10 (-exponent).toNat / (f.one * Nat.pow 10 exponent.toNat)
  let above := below + 1
  let lowFits := readsBack f w below exponent
  let highFits := readsBack f w above exponent
  if lowFits && highFits then
    match compareQuarters f (below + above) exponent (8 * f.units w), tie with
    | .gt, _ => some below
    | .lt, _ => some above
    | .eq, .up => some above
    | .eq, .even => some (if below % 2 = 0 then below else above)
  else if lowFits then some below
  else if highFits then some above
  else none

/-- More digits than this are never needed. -/
def digitLimit (f : Format) : Nat := digitCount (Nat.pow 2 (f.fractionBits + 1)) + 1

/-- The shortest decimal of a positive finite magnitude word.  Should no grid
within the limit have one, the exact decimal is taken. -/
def shortest (f : Format) (tie : Tie) (w : Nat) : Numeral :=
  let bound := magnitudeBound f w
  let found := (List.range (digitLimit f)).findSome? fun extra =>
    let exponent := bound - 1 - (extra : Nat)
    (onGrid f tie w exponent).map fun coefficient => Numeral.ofScaled coefficient exponent
  found.getD (Numeral.ofScaled (f.units w * Nat.pow 5 f.scale) (-f.scale))

end VehicleBus.Decimal
