import VehicleBus.Binary.Format

/-!
# Arithmetic on words

The four operations on words of one format, and the conversions into a format.
Each takes the exact result as a quotient of units and rounds it once; what is
left is the table of signs, infinities and non-numbers.  A non-number among the
operands is the answer, the first one if there are two.
-/

namespace VehicleBus.Binary.Format

variable (f : Format)

/-- The word nearest to a signed whole number of units. -/
def ofUnits (units : Int) : Nat :=
  f.signed (decide (units < 0)) (f.round units.natAbs 1)

/-- The word nearest to an integer. -/
def ofInt (n : Int) : Nat := f.ofUnits (n * f.one)

/-- Change the sign; this is the sign bit alone, also of a non-number. -/
def negate (a : Nat) : Nat :=
  if f.signBit ≤ a then a - f.signBit else a + f.signBit

/-- Sum.  Two negative zeros give a negative zero; every other sum that is
exactly zero is a positive one. -/
def add (a b : Nat) : Nat :=
  match f.datum a, f.datum b with
  | .nan, _ => a
  | _, .nan => b
  | .infinite s, .infinite t => if s = t then a else f.invalid
  | .infinite _, .finite _ _ => a
  | .finite _ _, .infinite _ => b
  | .finite true 0, .finite true 0 => a
  | .finite s m, .finite t n =>
    f.ofUnits ((if s then -(m : Int) else m) + (if t then -(n : Int) else n))

/-- Difference. -/
def sub (a b : Nat) : Nat :=
  match f.datum b with
  | .nan => if (f.datum a).isNaN then a else b
  | _ => f.add a (f.negate b)

/-- Product. -/
def mul (a b : Nat) : Nat :=
  match f.datum a, f.datum b with
  | .nan, _ => a
  | _, .nan => b
  | .infinite s, .infinite t => f.signed (s != t) f.infinity
  | .infinite s, .finite t n => if n = 0 then f.invalid else f.signed (s != t) f.infinity
  | .finite s m, .infinite t => if m = 0 then f.invalid else f.signed (s != t) f.infinity
  | .finite s m, .finite t n => f.signed (s != t) (f.round (m * n) f.one)

/-- Quotient. -/
def div (a b : Nat) : Nat :=
  match f.datum a, f.datum b with
  | .nan, _ => a
  | _, .nan => b
  | .infinite _, .infinite _ => f.invalid
  | .infinite s, .finite t _ => f.signed (s != t) f.infinity
  | .finite s _, .infinite t => f.signed (s != t) 0
  | .finite s m, .finite t n =>
    if n ≠ 0 then f.signed (s != t) (f.round (m * f.one) n)
    else if m = 0 then f.invalid
    else f.signed (s != t) f.infinity

/-- The word of `f` nearest to a word of `g`.  The fraction of a non-number
keeps its leading bits. -/
def ofFormat (g : Format) (a : Nat) : Nat :=
  let negative := decide (g.signBit ≤ a)
  match g.datum a with
  | .nan =>
    let fraction := a % Nat.pow 2 g.fractionBits * Nat.pow 2 f.fractionBits / Nat.pow 2 g.fractionBits
    let quiet := Nat.pow 2 (f.fractionBits - 1)
    f.signed negative (f.infinity + (if fraction < quiet then fraction + quiet else fraction))
  | .infinite _ => f.signed negative f.infinity
  | .finite _ units => f.signed negative (f.round (units * f.one) g.one)

/-- The magnitude word nearest to `digits * 10 ^ exponent`.  Far outside the
range of the format the power of ten is not computed: beyond the largest finite
magnitude everything is infinity, below half a unit everything is zero. -/
def ofDecimal (digits : Nat) (exponent : Int) : Nat :=
  let lead := exponent + (Nat.toDigits 10 digits).length
  if digits = 0 then 0
  else if (f.scale : Int) < lead then f.infinity
  else if lead < -(f.scale : Int) then 0
  else f.round (digits * Nat.pow 10 exponent.toNat * f.one) (Nat.pow 10 (-exponent).toNat)

end VehicleBus.Binary.Format
