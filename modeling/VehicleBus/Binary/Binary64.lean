import VehicleBus.Binary.Arithmetic

/-!
# 64-bit floating-point numbers

`Binary64` is a word of the 64-bit format.  Two values are equal as Lean terms
when their words are; `Binary64.same` is the equality of numbers.  Signal
values, factors and offsets are of this type.
-/

namespace VehicleBus

open Binary

/-- A 64-bit floating-point number, by its word. -/
structure Binary64 where
  bits : UInt64
deriving DecidableEq, Repr, Inhabited

namespace Binary64

/-- The value with a given word; words have at most 64 bits. -/
def ofWord (word : Nat) : Binary64 := ⟨UInt64.ofNat word⟩

def word (x : Binary64) : Nat := x.bits.toNat

def datum (x : Binary64) : Datum := binary64.datum x.word

def zero : Binary64 := ⟨0⟩

def one : Binary64 := ⟨0x3FF0000000000000⟩

/-- The nearest value to an integer. -/
def ofInt (n : Int) : Binary64 := ofWord (binary64.ofInt n)

/-- The nearest value to a natural number. -/
def ofNat (n : Nat) : Binary64 := ofInt n

instance : Add Binary64 := ⟨fun x y => ofWord (binary64.add x.word y.word)⟩
instance : Sub Binary64 := ⟨fun x y => ofWord (binary64.sub x.word y.word)⟩
instance : Mul Binary64 := ⟨fun x y => ofWord (binary64.mul x.word y.word)⟩
instance : Div Binary64 := ⟨fun x y => ofWord (binary64.div x.word y.word)⟩
instance : Neg Binary64 := ⟨fun x => ofWord (binary64.negate x.word)⟩

/-- The value nearest to `digits * 10 ^ exponent`, with a sign. -/
def ofDecimal (negative : Bool) (digits : Nat) (exponent : Int) : Binary64 :=
  ofWord (binary64.signed negative (binary64.ofDecimal digits exponent))

def infinity (negative : Bool) : Binary64 :=
  ofWord (binary64.signed negative binary64.infinity)

/-- A non-number with a given sign. -/
def nan (negative : Bool) : Binary64 :=
  ofWord (binary64.signed negative (binary64.infinity + Nat.pow 2 51))

/-- Equality of numbers. -/
def same (x y : Binary64) : Bool := x.datum.same y.datum

def less (x y : Binary64) : Bool := x.datum.less y.datum

def atMost (x y : Binary64) : Bool := x.datum.atMost y.datum

def isFinite (x : Binary64) : Bool := x.datum.isFinite

def isNaN (x : Binary64) : Bool := x.datum.isNaN

/-- The integer that the value is, if it is one. -/
def toInt? (x : Binary64) : Option Int :=
  match x.datum.toInt? with
  | some units =>
    if units % binary64.one = 0 then some (units / binary64.one) else none
  | none => none

/-- The natural number below a value, cut off at zero and at `top`; a
non-number counts as zero. -/
def toNatClamped (top : Nat) (x : Binary64) : Nat :=
  match x.datum with
  | .nan => 0
  | .infinite true => 0
  | .infinite false => top
  | .finite true _ => 0
  | .finite false units => min (units / binary64.one) top

/-- The integer nearest to a value, away from zero if two are equally near, cut
off at zero and at `top`; a non-number counts as zero. -/
def roundClamped (top : Nat) (x : Binary64) : Nat :=
  match x.datum with
  | .nan => 0
  | .infinite true => 0
  | .infinite false => top
  | .finite true _ => 0
  | .finite false units => min ((2 * units + binary64.one) / (2 * binary64.one)) top

end Binary64

end VehicleBus
