import VehicleBus.Text.Ranges

/-!
# Blanks

The characters with the Unicode property White Space, the 25 that separate the
words of a line, and the two functions that use them.
-/

namespace VehicleBus.Text

def blankRanges : Ranges :=
  [(0x9, 0xD), (0x20, 0x20), (0x85, 0x85), (0xA0, 0xA0), (0x1680, 0x1680), (0x2000, 0x200A),
   (0x2028, 0x2029), (0x202F, 0x202F), (0x205F, 0x205F), (0x3000, 0x3000)]

def isBlank (c : Char) : Bool := blankRanges.contains c

/-- A text without the blanks around it. -/
def trim (text : List Char) : List Char :=
  ((text.dropWhile isBlank).reverse.dropWhile isBlank).reverse

/-- The words of a text, in order; a word holds no blank and is not empty. -/
def words : List Char → List (List Char)
  | [] => []
  | c :: rest =>
    if isBlank c then words rest
    else
      match rest, words rest with
      | next :: _, word :: others =>
        if isBlank next then [c] :: word :: others else (c :: word) :: others
      | _, others => [c] :: others

end VehicleBus.Text
