import VehicleBus.Decimal.Shortest
import VehicleBus.Binary.Binary32

/-!
# Layout of decimals

How the digits of a floating-point number are written down.  The decisions of
one written form are collected in a `Layout`; this library writes numbers in two
forms, one inside sentences (`Layout.plain`) and one in documents, whose bounds
depend on the width of the number (`Layout.document64`, `Layout.document32`).
-/

namespace VehicleBus

namespace Decimal

open Binary

/-- The decisions of one written form of floating-point numbers. -/
structure Layout where
  /-- Is a number whose first digit stands at `10 ^ lead` written without an
  exponent? -/
  positional : Int → Bool
  /-- Do whole numbers in positional form end in a point and a zero? -/
  pointZero : Bool
  tie : Tie

namespace Layout

/-- In sentences: always positional, whole numbers without a point. -/
def plain : Layout where
  positional _ := true
  pointZero := false
  tie := .up

/-- In documents, for 64-bit numbers: positional from 0.00001 to below 10^16,
always with a point; otherwise with an exponent. -/
def document64 : Layout where
  positional lead := decide (-5 ≤ lead ∧ lead ≤ 15)
  pointZero := true
  tie := .even

/-- In documents, for 32-bit numbers: positional from 0.000001 to below 10^13,
always with a point; otherwise with an exponent. -/
def document32 : Layout where
  positional lead := decide (-6 ≤ lead ∧ lead ≤ 12)
  pointZero := true
  tie := .even

/-- Digits around the decimal point. -/
def writePositional (layout : Layout) (n : Numeral) : String :=
  if n.lead < 0 then
    "0." ++ String.ofList (List.replicate (-n.lead - 1).toNat '0' ++ n.digits)
  else
    let width := n.lead.toNat + 1
    let whole := n.digits.take width ++ List.replicate (width - n.digits.length) '0'
    let fraction := n.digits.drop width
    String.ofList whole ++
      (if fraction.isEmpty then (if layout.pointZero then ".0" else "")
       else "." ++ String.ofList fraction)

/-- One digit before the point and a signed exponent after the letter `e`. -/
def writeExponent (n : Numeral) : String :=
  let fraction := n.digits.drop 1
  String.ofList (n.digits.take 1) ++
    (if fraction.isEmpty then "" else "." ++ String.ofList fraction) ++
    (if n.lead < 0 then "e-" else "e+") ++ toString n.lead.natAbs

/-- Write a numeral. -/
def write (layout : Layout) (n : Numeral) : String :=
  if layout.positional n.lead then layout.writePositional n else writeExponent n

/-- Write a word of a format.  Zero keeps its sign. -/
def render (layout : Layout) (f : Format) (word : Nat) : String :=
  let magnitude := word % f.signBit
  let body :=
    if f.infinity < magnitude then "NaN"
    else if magnitude = f.infinity then "inf"
    else if magnitude = 0 then layout.write ⟨['0'], 0⟩
    else layout.write (shortest f layout.tie magnitude)
  if f.signBit ≤ word && magnitude ≤ f.infinity then "-" ++ body else body

end Layout

end Decimal

namespace Binary64

/-- The text of a number in a sentence. -/
def text (x : Binary64) : String := Decimal.Layout.plain.render Binary.binary64 x.word

/-- The text of a finite number in a document. -/
def documentText (x : Binary64) : String := Decimal.Layout.document64.render Binary.binary64 x.word

end Binary64

namespace Binary32

/-- The text of a number in a sentence. -/
def text (x : Binary32) : String := Decimal.Layout.plain.render Binary.binary32 x.word

/-- The text of a finite number in a document. -/
def documentText (x : Binary32) : String := Decimal.Layout.document32.render Binary.binary32 x.word

end Binary32

end VehicleBus
