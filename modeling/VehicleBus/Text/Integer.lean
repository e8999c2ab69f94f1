import VehicleBus.Text.Digits

/-!
# Unsigned integers in text

An unsigned integer is a run of digits in some base, perhaps behind a plus sign,
whose value stays below a bound.  Of several faults the leftmost is reported.
-/

namespace VehicleBus.Text

/-- Why a text is no integer. -/
inductive IntegerFault where
  | empty
  | invalidDigit
  | tooLarge
deriving DecidableEq, Repr

namespace IntegerFault

def message : IntegerFault → String
  | empty => "cannot parse integer from empty string"
  | invalidDigit => "invalid digit found in string"
  | tooLarge => "number too large to fit in target type"

end IntegerFault

/-- Read digits on from a value, which has to stay below a bound. -/
def readDigits (base bound : Nat) (value : Nat) : List Char → Except IntegerFault Nat
  | [] => .ok value
  | c :: rest =>
    match digit? base c with
    | none => .error .invalidDigit
    | some digit =>
      let next := value * base + digit
      if next < bound then readDigits base bound next rest else .error .tooLarge

/-- Read an unsigned integer. -/
def readUnsigned (base bound : Nat) : List Char → Except IntegerFault Nat
  | [] => .error .empty
  | ['+'] => .error .invalidDigit
  | '+' :: digits => readDigits base bound 0 digits
  | digits => readDigits base bound 0 digits

end VehicleBus.Text
