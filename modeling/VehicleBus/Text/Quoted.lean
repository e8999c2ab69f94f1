import VehicleBus.Text.Unprintable

/-!
# Quoted text

How a text is shown inside a sentence: between quotes, with a backslash before
double quotes and backslashes, and with characters that have no shape of their own by
their code point.
-/

namespace VehicleBus.Text

/-- The form of one character between quotes. -/
def quotedChar (c : Char) : List Char :=
  if c.toNat = 0 then ['\\', '0']
  else if c = '\t' then ['\\', 't']
  else if c = '\r' then ['\\', 'r']
  else if c = '\n' then ['\\', 'n']
  else if c = '\\' then ['\\', '\\']
  else if c = '"' then ['\\', '"']
  else if isUnprintable c then ['\\', 'u', '{'] ++ Nat.toDigits 16 c.toNat ++ ['}']
  else [c]

/-- A text between quotes. -/
def quoted (text : List Char) : String :=
  String.ofList ('"' :: text.flatMap quotedChar ++ ['"'])

end VehicleBus.Text
