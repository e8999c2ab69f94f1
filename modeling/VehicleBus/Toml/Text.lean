import VehicleBus.Text.Digits
import VehicleBus.Toml.Blank

/-!
# Quoted texts in TOML

A text stands between double quotes, where a backslash starts an escape, or
between single quotes, where every character stands for itself.  Three quotes
open a text of several lines; up to two quotes in front of the closing three
belong to it.
-/

namespace VehicleBus.Toml

/-- The character with a number in base sixteen, if it is one. -/
def codePoint? (digits : List Char) : Option Char :=
  let value := Text.valueOfDigits 16 digits
  if digits.all Text.isHexDigit ∧ value.isValidChar then some (Char.ofNat value) else none

/-- The character that stands behind a backslash for another one. -/
def unescape? : Char → Option Char
  | 'b' => some (Char.ofNat 8)
  | 't' => some '\t'
  | 'n' => some '\n'
  | 'f' => some (Char.ofNat 12)
  | 'r' => some '\r'
  | '"' => some '"'
  | '\\' => some '\\'
  | _ => none

/-- Put a character in front of a text that was read. -/
def prepend (c : Char) (result : Option (List Char × List Char)) :
    Option (List Char × List Char) :=
  result.map fun (text, rest) => (c :: text, rest)

/-- Read a text in double quotes behind its opening quote. -/
def readBasic : List Char → Option (List Char × List Char)
  | [] => none
  | '"' :: rest => some ([], rest)
  | '\\' :: 'u' :: a :: b :: c :: d :: rest =>
    (codePoint? [a, b, c, d]).bind (prepend · (readBasic rest))
  | '\\' :: 'U' :: a :: b :: c :: d :: e :: f :: g :: h :: rest =>
    (codePoint? [a, b, c, d, e, f, g, h]).bind (prepend · (readBasic rest))
  | '\\' :: c :: rest => (unescape? c).bind (prepend · (readBasic rest))
  | c :: rest => if isTextChar c then prepend c (readBasic rest) else none

/-- Read a text in single quotes behind its opening quote. -/
def readLiteral : List Char → Option (List Char × List Char)
  | [] => none
  | '\'' :: rest => some ([], rest)
  | c :: rest => if isTextChar c then prepend c (readLiteral rest) else none

/-- Quotes behind the closing three that make the last three the closing ones. -/
def closing (quote : Char) (rest : List Char) : List Char × List Char :=
  let extra := (rest.takeWhile (· == quote)).take 2
  (extra, rest.drop extra.length)

/-- Read lines in double quotes behind their opening quotes.  A backslash at the
end of a line joins it to the next text; `joining` says that this is going on. -/
def readBasicLines : (joining : Bool) → List Char → Option (List Char × List Char)
  | _, [] => none
  | _, '"' :: '"' :: '"' :: rest => some (closing '"' rest)
  | _, '\\' :: 'u' :: a :: b :: c :: d :: rest =>
    (codePoint? [a, b, c, d]).bind (prepend · (readBasicLines false rest))
  | _, '\\' :: 'U' :: a :: b :: c :: d :: e :: f :: g :: h :: rest =>
    (codePoint? [a, b, c, d, e, f, g, h]).bind (prepend · (readBasicLines false rest))
  | _, '\\' :: c :: rest =>
    if (skipBlanks (c :: rest)).head? = some '\n' then readBasicLines true rest
    else (unescape? c).bind (prepend · (readBasicLines false rest))
  | joining, c :: rest =>
    if joining && (isBlank c || c == '\n') then readBasicLines true rest
    else if isTextChar c || c == '\n' then prepend c (readBasicLines false rest)
    else none

/-- Read lines in single quotes behind their opening quotes. -/
def readLiteralLines : List Char → Option (List Char × List Char)
  | [] => none
  | '\'' :: '\'' :: '\'' :: rest => some (closing '\'' rest)
  | c :: rest =>
    if isTextChar c || c == '\n' then prepend c (readLiteralLines rest) else none

/-- A line end right behind opening quotes is no part of the text. -/
def dropLineEnd : List Char → List Char
  | '\n' :: rest => rest
  | rest => rest

/-- Read a text on one line. -/
def readLineText : List Char → Option (List Char × List Char)
  | '"' :: rest => readBasic rest
  | '\'' :: rest => readLiteral rest
  | _ => none

/-- Read a text of any of the four kinds. -/
def readText : List Char → Option (List Char × List Char)
  | '"' :: '"' :: '"' :: rest => readBasicLines false (dropLineEnd rest)
  | '\'' :: '\'' :: '\'' :: rest => readLiteralLines (dropLineEnd rest)
  | text => readLineText text

end VehicleBus.Toml
