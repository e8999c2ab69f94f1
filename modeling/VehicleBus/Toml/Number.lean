import VehicleBus.Node
import VehicleBus.Text.Digits

/-!
# Numbers in TOML

Whole numbers fit 64 bits with a sign and may be written in base two, eight or
sixteen; other numbers have the nearest value.  Between two digits one underscore
may stand.  A number too large for any finite value is refused unless it is
negative, and the words for infinity and for no number are always allowed.
-/

namespace VehicleBus.Toml

/-- Split a text behind its leading digits, of which underscores may separate
any two. -/
def spanRun (isDigit : Char → Bool) : List Char → List Char × List Char
  | [] => ([], [])
  | '_' :: c :: rest =>
    if isDigit c then
      let (digits, rest) := spanRun isDigit rest
      (c :: digits, rest)
    else ([], '_' :: c :: rest)
  | c :: rest =>
    if isDigit c then
      let (digits, rest) := spanRun isDigit rest
      (c :: digits, rest)
    else ([], c :: rest)

/-- Read a run of digits, which starts with a digit. -/
def readRun (isDigit : Char → Bool) (text : List Char) : Option (List Char × List Char) :=
  if text.head?.any isDigit then some (spanRun isDigit text) else none

/-- Read decimal digits, which only start with a zero if that is all of them. -/
def readWhole (text : List Char) : Option (List Char × List Char) :=
  match text with
  | '0' :: rest => some (['0'], rest)
  | text => readRun Char.isDigit text

/-- Split a sign off the front of a text: is it a minus sign? -/
def splitSign : List Char → Bool × List Char
  | '-' :: rest => (true, rest)
  | '+' :: rest => (false, rest)
  | rest => (false, rest)

/-- Read a fraction with its point, or nothing. -/
def readFraction : List Char → Option (Option (List Char) × List Char)
  | '.' :: rest => (readRun Char.isDigit rest).map fun (digits, rest) => (some digits, rest)
  | text => some (none, text)

/-- Read an exponent with its letter, or nothing. -/
def readExponent (text : List Char) : Option (Option Int × List Char) :=
  match text with
  | c :: rest =>
    if c = 'e' ∨ c = 'E' then
      let (negative, rest) := splitSign rest
      (readRun Char.isDigit rest).map fun (digits, rest) =>
        let value : Int := Text.valueOfDigits 10 digits
        (some (if negative then -value else value), rest)
    else some (none, text)
  | [] => some (none, [])

/-- The node of a whole number, if it fits. -/
def integerNode? (value : Int) : Option Node :=
  if Int64.minValue.toInt ≤ value ∧ value ≤ Int64.maxValue.toInt then some (.integer value) else none

/-- Read a whole number in a base other than ten. -/
def readBased (base : Nat) (text : List Char) : Option (Node × List Char) := do
  let (digits, rest) ← readRun (fun c => (Text.digit? base c).isSome) text
  return (← integerNode? (Text.valueOfDigits base digits), rest)

/-- Read a number without its sign. -/
def readMagnitude (negative : Bool) (text : List Char) : Option (Node × List Char) := do
  let (whole, rest) ← readWhole text
  let (fraction, rest) ← readFraction rest
  let (exponent, rest) ← readExponent rest
  match fraction, exponent with
  | none, none =>
    let value : Int := Text.valueOfDigits 10 whole
    return (← integerNode? (if negative then -value else value), rest)
  | _, _ =>
    let digits := fraction.getD []
    let value := Binary64.ofDecimal negative (Text.valueOfDigits 10 (whole ++ digits))
      (exponent.getD 0 - digits.length)
    if value.same (Binary64.infinity false) then none else return (.real value, rest)

/-- Read a number of any kind. -/
def readNumber (text : List Char) : Option (Node × List Char) :=
  match text with
  | '0' :: 'x' :: rest => readBased 16 rest
  | '0' :: 'o' :: rest => readBased 8 rest
  | '0' :: 'b' :: rest => readBased 2 rest
  | text =>
    let (negative, rest) := splitSign text
    match rest with
    | 'i' :: 'n' :: 'f' :: rest => some (.real (Binary64.infinity negative), rest)
    | 'n' :: 'a' :: 'n' :: rest => some (.real (Binary64.nan negative), rest)
    | rest => readMagnitude negative rest

end VehicleBus.Toml
