import VehicleBus.Json.Number

/-!
# Reading JSON texts

`Node.ofJson?` reads one JSON value with blanks around it.  A text with an
unpaired surrogate and a number beyond every range are well formed, so they may
stand where nobody looks at them; they are read as `Node.unusable`, and so is an
object with such a key.

The fuel of the readers is the length of the text: each value and each separator
takes at least one character.
-/

namespace VehicleBus

namespace Json

/-- The four blanks of JSON. -/
def isBlank (c : Char) : Bool := c == ' ' || c == '\n' || c == '\t' || c == '\r'

def skipBlanks (text : List Char) : List Char := text.dropWhile isBlank

/-- The number that four digits in base sixteen stand for. -/
def hexUnit? (a b c d : Char) : Option Nat :=
  if Text.isHexDigit a && Text.isHexDigit b && Text.isHexDigit c && Text.isHexDigit d then
    some (Text.valueOfDigits 16 [a, b, c, d])
  else none

/-- The character that stands behind a backslash for another one. -/
def unescape? : Char → Option Char
  | '"' => some '"'
  | '\\' => some '\\'
  | '/' => some '/'
  | 'b' => some (Char.ofNat 8)
  | 'f' => some (Char.ofNat 12)
  | 'n' => some '\n'
  | 'r' => some '\r'
  | 't' => some '\t'
  | _ => none

/-- Put a character in front of a text that was read; no character spoils the
text. -/
def prepend (c : Option Char) (result : Option (Option (List Char) × List Char)) :
    Option (Option (List Char) × List Char) :=
  result.map fun (text, rest) =>
    (match c, text with
      | some c, some text => some (c :: text)
      | _, _ => none, rest)

/-- The character of two 16-bit units, if they are a surrogate pair. -/
def surrogatePair? (high low : Nat) : Option Char :=
  if 0xD800 ≤ high ∧ high ≤ 0xDBFF ∧ 0xDC00 ≤ low ∧ low ≤ 0xDFFF then
    some (Char.ofNat (0x10000 + (high - 0xD800) * 0x400 + (low - 0xDC00)))
  else none

/-- The character of a 16-bit unit that is no surrogate. -/
def unitChar? (unit : Nat) : Option Char :=
  if 0xD800 ≤ unit ∧ unit ≤ 0xDFFF then none else some (Char.ofNat unit)

/-- Read a quoted text behind its opening quote. -/
def readText : List Char → Option (Option (List Char) × List Char)
  | [] => none
  | '"' :: rest => some (some [], rest)
  | '\\' :: 'u' :: a :: b :: c :: d :: '\\' :: 'u' :: e :: f :: g :: h :: rest =>
    match hexUnit? a b c d with
    | none => none
    | some high =>
      match (hexUnit? e f g h).bind (surrogatePair? high) with
      | some pair => prepend (some pair) (readText rest)
      | none => prepend (unitChar? high) (readText ('\\' :: 'u' :: e :: f :: g :: h :: rest))
  | '\\' :: 'u' :: a :: b :: c :: d :: rest =>
    match hexUnit? a b c d with
    | none => none
    | some unit => prepend (unitChar? unit) (readText rest)
  | '\\' :: c :: rest =>
    match unescape? c with
    | none => none
    | some c => prepend (some c) (readText rest)
  | c :: rest => if c.toNat < 32 then none else prepend (some c) (readText rest)

/-- The object with given members; a key that is no text spoils it. -/
def objectNode (members : List (Option String × Node)) : Node :=
  match members.mapM fun (key, value) => key.map fun key => (key, value) with
  | some members => .table members
  | none => .unusable

mutual

/-- Read a value from the front of a text without blanks. -/
def readValue : (fuel : Nat) → List Char → Option (Node × List Char)
  | 0, _ => none
  | fuel + 1, text =>
    match text with
    | [] => none
    | '"' :: rest =>
      (readText rest).map fun (value, rest) =>
        (match value with
          | some value => .text (String.ofList value)
          | none => .unusable, rest)
    | '[' :: rest =>
      match skipBlanks rest with
      | ']' :: rest => some (.list [], rest)
      | rest => (readItems fuel rest).map fun (items, rest) => (.list items, rest)
    | '{' :: rest =>
      match skipBlanks rest with
      | '}' :: rest => some (objectNode [], rest)
      | rest => (readMembers fuel rest).map fun (members, rest) => (objectNode members, rest)
    | 'n' :: _ => (['n', 'u', 'l', 'l'].isPrefixOf? text).map fun rest => (.null, rest)
    | 't' :: _ => (['t', 'r', 'u', 'e'].isPrefixOf? text).map fun rest => (.flag true, rest)
    | 'f' :: _ => (['f', 'a', 'l', 's', 'e'].isPrefixOf? text).map fun rest => (.flag false, rest)
    | _ => (readNumber text).map fun (number, rest) => (number.node, rest)

/-- Read the items of a list up to its end; there is at least one. -/
def readItems : (fuel : Nat) → List Char → Option (List Node × List Char)
  | 0, _ => none
  | fuel + 1, text =>
    match readValue fuel text with
    | none => none
    | some (item, rest) =>
      match skipBlanks rest with
      | ']' :: rest => some ([item], rest)
      | ',' :: rest =>
        (readItems fuel (skipBlanks rest)).map fun (items, rest) => (item :: items, rest)
      | _ => none

/-- Read the members of an object up to its end; there is at least one. -/
def readMembers : (fuel : Nat) → List Char → Option (List (Option String × Node) × List Char)
  | 0, _ => none
  | fuel + 1, text =>
    match text with
    | '"' :: rest =>
      match readText rest with
      | none => none
      | some (key, rest) =>
        match skipBlanks rest with
        | ':' :: rest =>
          match readValue fuel (skipBlanks rest) with
          | none => none
          | some (value, rest) =>
            let member := (key.map String.ofList, value)
            match skipBlanks rest with
            | '}' :: rest => some ([member], rest)
            | ',' :: rest =>
              (readMembers fuel (skipBlanks rest)).map fun (members, rest) =>
                (member :: members, rest)
            | _ => none
        | _ => none
    | _ => none

end

end Json

/-- Read a JSON text as a whole. -/
def Node.ofJson? (text : String) : Option Node :=
  let characters := Json.skipBlanks text.toList
  match Json.readValue (2 * characters.length + 2) characters with
  | some (node, rest) => if (Json.skipBlanks rest).isEmpty then some node else none
  | none => none

end VehicleBus
