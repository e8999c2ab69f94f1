import VehicleBus.Binary.Binary64

/-!
# 32-bit floating-point numbers

Frequencies are stored as 32-bit values and widened before they are computed
with; widening is exact.
-/

namespace VehicleBus

open Binary

/-- A 32-bit floating-point number, by its word. -/
structure Binary32 where
  bits : UInt32
deriving DecidableEq, Repr, Inhabited

namespace Binary32

/-- The value with a given word; words have at most 32 bits. -/
def ofWord (word : Nat) : Binary32 := ⟨UInt32.ofNat word⟩

def word (x : Binary32) : Nat := x.bits.toNat

def datum (x : Binary32) : Datum := binary32.datum x.word

def zero : Binary32 := ⟨0⟩

/-- The nearest value to an integer. -/
def ofInt (n : Int) : Binary32 := ofWord (binary32.ofInt n)

/-- The nearest value to a 64-bit number. -/
def narrow (x : Binary64) : Binary32 := ofWord (binary32.ofFormat binary64 x.word)

/-- The same number in 64 bits. -/
def widen (x : Binary32) : Binary64 := Binary64.ofWord (binary64.ofFormat binary32 x.word)

def isFinite (x : Binary32) : Bool := x.datum.isFinite

def isNaN (x : Binary32) : Bool := x.datum.isNaN

/-- Is the value greater than zero? -/
def isPositive (x : Binary32) : Bool := zero.datum.less x.datum

end Binary32

end VehicleBus
