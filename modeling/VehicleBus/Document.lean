import VehicleBus.Decimal.Layout

/-!
# Documents

The tree of a JSON document and its written form: one line, no blanks, object
members in the given order.  Texts are quoted with the short escapes where there
are any, so no written document holds a character below the blank.
-/

namespace VehicleBus

inductive Document where
  | null
  | flag (value : Bool)
  | integer (value : Int)
  | double (value : Binary64)
  | single (value : Binary32)
  | text (value : String)
  | list (items : List Document)
  | object (members : List (String × Document))

namespace Document

/-- The written form of one character inside quotes. -/
def escape (c : Char) : List Char :=
  if c = '"' then ['\\', '"']
  else if c = '\\' then ['\\', '\\']
  else if c = '\n' then ['\\', 'n']
  else if c = '\r' then ['\\', 'r']
  else if c = '\t' then ['\\', 't']
  else if c.toNat = 8 then ['\\', 'b']
  else if c.toNat = 12 then ['\\', 'f']
  else if c.toNat < 32 then
    ['\\', 'u', '0', '0', Nat.digitChar (c.toNat / 16), Nat.digitChar (c.toNat % 16)]
  else [c]

/-- A text between quotes. -/
def quote (text : String) : List Char := '"' :: text.toList.flatMap escape ++ ['"']

/-- Written items with commas between them. -/
def commaSeparated : List (List Char) → List Char
  | [] => []
  | [item] => item
  | item :: rest => item ++ ',' :: commaSeparated rest

mutual

/-- The written form of a document.  Numbers that are not finite are null. -/
def chars : Document → List Char
  | null => ['n', 'u', 'l', 'l']
  | flag true => ['t', 'r', 'u', 'e']
  | flag false => ['f', 'a', 'l', 's', 'e']
  | integer value => (toString value).toList
  | double value => if value.isFinite then value.documentText.toList else ['n', 'u', 'l', 'l']
  | single value => if value.isFinite then value.documentText.toList else ['n', 'u', 'l', 'l']
  | text value => quote value
  | list items => '[' :: commaSeparated (itemChars items) ++ [']']
  | object members => '{' :: commaSeparated (memberChars members) ++ ['}']

/-- The written forms of the items of a list. -/
def itemChars : List Document → List (List Char)
  | [] => []
  | item :: rest => item.chars :: itemChars rest

/-- The written forms of the members of an object. -/
def memberChars : List (String × Document) → List (List Char)
  | [] => []
  | (key, value) :: rest => (quote key ++ ':' :: value.chars) :: memberChars rest

end

/-- The text of a document. -/
def render (document : Document) : String := String.ofList document.chars

end Document

end VehicleBus
