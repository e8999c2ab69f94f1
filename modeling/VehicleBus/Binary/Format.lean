/-!
# Binary floating-point formats

A word of a floating-point format carries a sign and a magnitude.  All finite
magnitudes of one format are whole multiples of its least positive magnitude,
the *unit*, so this file speaks of magnitudes as natural numbers of units and
never needs a real number.

Every operation is "exact, then round once": the exact result is a quotient of
natural numbers in units, and `Format.round` picks the nearest magnitude word,
the even one on a tie.  A magnitude that is representable is therefore kept as it
is, and words are ordered as the magnitudes they stand for.
-/

namespace VehicleBus.Binary

/-- The integer nearest to `num / den`, the even one of two equally near. -/
def nearest (num den : Nat) : Nat :=
  let quotient := num / den
  let twice := 2 * (num % den)
  if twice < den then quotient
  else if den < twice then quotient + 1
  else quotient + quotient % 2

/-- The widths of the two fields below the sign bit of a word. -/
structure Format where
  fractionBits : Nat
  exponentBits : Nat
deriving DecidableEq, Repr

/-- The format of 64-bit words. -/
def binary64 : Format := ⟨52, 11⟩

/-- The format of 32-bit words. -/
def binary32 : Format := ⟨23, 8⟩

namespace Format

variable (f : Format)

/-- The unit of the format is `2 ^ -scale`. -/
def scale : Nat := f.fractionBits + Nat.pow 2 (f.exponentBits - 1) - 2

/-- The number of units in one. -/
def one : Nat := Nat.pow 2 f.scale

/-- The word in which only the sign bit is set. -/
def signBit : Nat := Nat.pow 2 (f.fractionBits + f.exponentBits)

/-- The magnitude word of infinity; larger ones are no numbers. -/
def infinity : Nat := (Nat.pow 2 f.exponentBits - 1) * Nat.pow 2 f.fractionBits

/-- How often the significand of a magnitude word is doubled.  Words whose
exponent field is zero or one share the same spacing. -/
def shift (w : Nat) : Nat := w / Nat.pow 2 f.fractionBits - 1

/-- The significand of a magnitude word, leading bit included. -/
def significand (w : Nat) : Nat := w - f.shift w * Nat.pow 2 f.fractionBits

/-- The magnitude of a finite word, in units. -/
def units (w : Nat) : Nat := f.significand w * Nat.pow 2 (f.shift w)

/-- The magnitude word nearest to `num / den` units.  A significand that
rounds up to the next power of two carries into the exponent field by plain
addition, and all that lies beyond the largest finite word is infinity. -/
def round (num den : Nat) : Nat :=
  let shift := (num / den).log2 - f.fractionBits
  min (shift * Nat.pow 2 f.fractionBits + nearest num (den * Nat.pow 2 shift)) f.infinity

end Format

/-- What a word stands for. -/
inductive Datum where
  | nan
  | infinite (negative : Bool)
  /-- A finite magnitude in units; zero has a sign as well. -/
  | finite (negative : Bool) (units : Nat)
deriving DecidableEq, Repr

namespace Format

/-- Decode a word of the format. -/
def datum (f : Format) (word : Nat) : Datum :=
  let negative := decide (f.signBit ≤ word)
  let magnitude := word % f.signBit
  if magnitude < f.infinity then .finite negative (f.units magnitude)
  else if magnitude = f.infinity then .infinite negative
  else .nan

/-- Attach a sign to a magnitude word. -/
def signed (f : Format) (negative : Bool) (magnitude : Nat) : Nat :=
  if negative then f.signBit + magnitude else magnitude

/-- The word of an operation that has no answer. -/
def invalid (f : Format) : Nat :=
  f.signBit + f.infinity + Nat.pow 2 (f.fractionBits - 1)

end Format

namespace Datum

/-- Signed number of units; infinities and non-numbers have none. -/
def toInt? : Datum → Option Int
  | .finite negative units => some (if negative then -units else units)
  | _ => none

def isFinite : Datum → Bool
  | .finite _ _ => true
  | _ => false

def isNaN : Datum → Bool
  | .nan => true
  | _ => false

/-- The order of numbers, in which nothing compares with a non-number and the
two zeros are equal. -/
def less : Datum → Datum → Bool
  | .nan, _ => false
  | _, .nan => false
  | .infinite a, .infinite b => a && !b
  | .infinite a, .finite _ _ => a
  | .finite _ _, .infinite b => !b
  | .finite a m, .finite b n =>
    decide ((if a then -(m : Int) else m) < (if b then -(n : Int) else n))

/-- Equality of numbers: a non-number differs from itself, and the two zeros
are equal. -/
def same : Datum → Datum → Bool
  | .infinite a, .infinite b => a == b
  | .finite a m, .finite b n =>
    decide ((if a then -(m : Int) else m) = (if b then -(n : Int) else n))
  | _, _ => false

/-- Less or equal. -/
def atMost (a b : Datum) : Bool := a.less b || a.same b

end Datum

end VehicleBus.Binary
