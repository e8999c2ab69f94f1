/-!
# Lines of a TOML text

Line ends are unified once, at the start: a carriage return in front of a line
feed is dropped, and every other one stays and is refused wherever it stands.
Behind that, a blank is a space or a tab, and a comment runs to the end of its
line.
-/

namespace VehicleBus.Toml

/-- A text whose lines all end in a single line feed. -/
def unifyLines : List Char → List Char
  | '\r' :: '\n' :: rest => '\n' :: unifyLines rest
  | c :: rest => c :: unifyLines rest
  | [] => []

def isBlank (c : Char) : Bool := c == ' ' || c == '\t'

def skipBlanks (text : List Char) : List Char := text.dropWhile isBlank

/-- The characters that may stand in a comment or in a quoted text: all but the
control characters of ASCII, of which only the tab is allowed. -/
def isTextChar (c : Char) : Bool := c == '\t' || (32 ≤ c.toNat && c.toNat != 127)

/-- Leave a line, behind which only blanks and a comment may stand. -/
def endLine (text : List Char) : Option (List Char) :=
  let rest := match skipBlanks text with
    | '#' :: comment => comment.dropWhile isTextChar
    | rest => rest
  match rest with
  | [] => some []
  | '\n' :: rest => some rest
  | _ => none

/-- Skip blanks, line ends and comments; `comment` says that a comment is open. -/
def skipGaps : (comment : Bool) → List Char → Option (List Char)
  | _, [] => some []
  | true, c :: rest =>
    if c = '\n' then skipGaps false rest
    else if isTextChar c then skipGaps true rest
    else none
  | false, c :: rest =>
    if isBlank c || c = '\n' then skipGaps false rest
    else if c = '#' then skipGaps true rest
    else some (c :: rest)

end VehicleBus.Toml
