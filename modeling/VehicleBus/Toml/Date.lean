import VehicleBus.Text.Digits

/-!
# Dates and times in TOML

No setting takes a date, so only their extent matters here: a date, a time of
day, or a date with a time and perhaps its distance from universal time.
-/

namespace VehicleBus.Toml

/-- Read two digits as a number in a range. -/
def readTwo (least greatest : Nat) : List Char → Option (Nat × List Char)
  | a :: b :: rest =>
    let value := Text.valueOfDigits 10 [a, b]
    if a.isDigit ∧ b.isDigit ∧ least ≤ value ∧ value ≤ greatest then some (value, rest) else none
  | _ => none

def skipTwo (least greatest : Nat) (text : List Char) : Option (List Char) :=
  (readTwo least greatest text).map (·.2)

/-- Skip one given character. -/
def skipChar (c : Char) : List Char → Option (List Char)
  | d :: rest => if c = d then some rest else none
  | [] => none

def isLeapYear (year : Nat) : Bool :=
  year % 4 == 0 && (year % 100 != 0 || year % 400 == 0)

def daysInMonth (year month : Nat) : Nat :=
  if month = 2 then if isLeapYear year then 29 else 28
  else if month = 4 ∨ month = 6 ∨ month = 9 ∨ month = 11 then 30
  else 31

/-- Skip a calendar date. -/
def skipDay : List Char → Option (List Char)
  | a :: b :: c :: d :: '-' :: rest =>
    if [a, b, c, d].all Char.isDigit then do
      let (month, rest) ← readTwo 1 12 rest
      let rest ← skipChar '-' rest
      skipTwo 1 (daysInMonth (Text.valueOfDigits 10 [a, b, c, d]) month) rest
    else none
  | _ => none

/-- Skip a fraction of a second, if there is one. -/
def skipFraction : List Char → List Char
  | '.' :: c :: rest => if c.isDigit then rest.dropWhile Char.isDigit else '.' :: c :: rest
  | text => text

/-- Skip a time of day; a minute may have a leap second. -/
def skipTime (text : List Char) : Option (List Char) := do
  let rest ← skipTwo 0 23 text
  let rest ← skipChar ':' rest
  let rest ← skipTwo 0 59 rest
  let rest ← skipChar ':' rest
  let rest ← skipTwo 0 60 rest
  return skipFraction rest

/-- Skip a distance from universal time. -/
def skipOffset (text : List Char) : Option (List Char) :=
  match text with
  | c :: rest =>
    if c = 'Z' ∨ c = 'z' then some rest
    else if c = '+' ∨ c = '-' then do
      let rest ← skipTwo 0 23 rest
      let rest ← skipChar ':' rest
      skipTwo 0 59 rest
    else none
  | [] => none

/-- Skip the time behind a date, if there is one. -/
def skipTimeOfDay (text : List Char) : List Char :=
  match text with
  | c :: rest =>
    if c = 'T' ∨ c = 't' ∨ c = ' ' then
      match skipTime rest with
      | some rest => (skipOffset rest).getD rest
      | none => text
    else text
  | [] => []

/-- Skip a date, a time, or both. -/
def skipDate (text : List Char) : Option (List Char) :=
  match skipDay text with
  | some rest => some (skipTimeOfDay rest)
  | none => skipTime text

end VehicleBus.Toml
