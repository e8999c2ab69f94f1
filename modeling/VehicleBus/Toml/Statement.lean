import VehicleBus.Toml.Date
import VehicleBus.Toml.Number
import VehicleBus.Toml.Text
import VehicleBus.Toml.Tree

/-!
# Statements of a TOML text

A text is a sequence of statements: headers, which name a table or append to a
list of tables, and settings, which give a value to a key.

The fuel of the readers is the length of the text; `depth` is the number of lists
and tables that a value may still open.
-/

namespace VehicleBus.Toml

/-- Greatest number of parts of a key. -/
def partLimit : Nat := 79

/-- Greatest number of lists and tables around a value. -/
def depthLimit : Nat := 79

/-- The characters of a key without quotes. -/
def isKeyChar (c : Char) : Bool := c.isAlphanum || c == '-' || c == '_'

/-- Read one part of a key. -/
def readPart (text : List Char) : Option (String × List Char) :=
  match text with
  | c :: _ =>
    if isKeyChar c then some (String.ofList (text.takeWhile isKeyChar), text.dropWhile isKeyChar)
    else (readLineText text).map fun (part, rest) => (String.ofList part, rest)
  | [] => none

/-- Read a key of at most so many parts, with blanks around each of them. -/
def readKey : (parts : Nat) → List Char → Option (Path × List Char)
  | 0, _ => none
  | parts + 1, text =>
    match readPart (skipBlanks text) with
    | none => none
    | some (part, rest) =>
      match skipBlanks rest with
      | '.' :: rest =>
        (readKey parts rest).map fun (path, rest) =>
          ({ path with tables := part :: path.tables }, rest)
      | rest => some ({ tables := [], name := part }, rest)

/-- Read a key and the equals sign behind it. -/
def readKeySign (text : List Char) : Option (Path × List Char) := do
  let (path, rest) ← readKey partLimit text
  return (path, ← skipChar '=' rest)

/-- Read a date or a number. -/
def readScalar (text : List Char) : Option (Node × List Char) :=
  match skipDate text with
  | some rest => some (.unusable, rest)
  | none => readNumber text

mutual

/-- Read a value from the front of a text. -/
def readValue : (fuel depth : Nat) → List Char → Option (Node × List Char)
  | 0, _, _ => none
  | fuel + 1, depth, text =>
    match text with
    | [] => none
    | '[' :: rest =>
      match depth with
      | 0 => none
      | depth + 1 => (readItems fuel depth rest).map fun (items, rest) => (.list items, rest)
    | '{' :: rest =>
      match depth with
      | 0 => none
      | depth + 1 =>
        match skipBlanks rest with
        | '}' :: rest => some (.table [], rest)
        | rest => (readPairs fuel depth [] rest).map fun (members, rest) => (members.node, rest)
    | 't' :: _ => (['t', 'r', 'u', 'e'].isPrefixOf? text).map fun rest => (.flag true, rest)
    | 'f' :: _ => (['f', 'a', 'l', 's', 'e'].isPrefixOf? text).map fun rest => (.flag false, rest)
    | c :: _ =>
      if c = '"' ∨ c = '\'' then
        (readText text).map fun (value, rest) => (.text (String.ofList value), rest)
      else readScalar text

/-- Read the items of a list up to its end; a comma may stand behind the last. -/
def readItems : (fuel depth : Nat) → List Char → Option (List Node × List Char)
  | 0, _, _ => none
  | fuel + 1, depth, text =>
    match skipGaps false text with
    | none => none
    | some (']' :: rest) => some ([], rest)
    | some text =>
      match readValue fuel depth text with
      | none => none
      | some (item, rest) =>
        match skipGaps false rest with
        | some (']' :: rest) => some ([item], rest)
        | some (',' :: rest) =>
          (readItems fuel depth rest).map fun (items, rest) => (item :: items, rest)
        | _ => none

/-- Read the settings of a table on one line up to its end; there is at least
one, and no comma behind the last. -/
def readPairs : (fuel depth : Nat) → Members → List Char → Option (Members × List Char)
  | 0, _, _, _ => none
  | fuel + 1, depth, members, text =>
    match readKeySign text with
    | none => none
    | some (path, rest) =>
      match readValue fuel depth (skipBlanks rest) with
      | none => none
      | some (value, rest) =>
        match members.assign path value with
        | none => none
        | some members =>
          match skipBlanks rest with
          | '}' :: rest => some (members, rest)
          | ',' :: rest => readPairs fuel depth members rest
          | _ => none

end

inductive Statement where
  | table (path : Path)
  | element (path : Path)
  | setting (path : Path) (value : Node)

namespace Statement

/-- Read one statement up to the end of its line. -/
def read (fuel : Nat) (text : List Char) : Option (Statement × List Char) :=
  match text with
  | '[' :: '[' :: rest => do
    let (path, rest) ← readKey partLimit rest
    let rest ← skipChar ']' (← skipChar ']' rest)
    return (element path, ← endLine rest)
  | '[' :: rest => do
    let (path, rest) ← readKey partLimit rest
    return (table path, ← endLine (← skipChar ']' rest))
  | text => do
    let (path, rest) ← readKeySign text
    let (value, rest) ← readValue fuel depthLimit (skipBlanks rest)
    return (setting path value, ← endLine rest)

/-- Read all statements; lines without one are blanks and comments. -/
def readAll : (fuel : Nat) → List Char → Option (List Statement)
  | 0, _ => none
  | fuel + 1, text =>
    if text.isEmpty then some []
    else
      match endLine text with
      | some rest => readAll fuel rest
      | none => do
        let (statement, rest) ← read fuel (skipBlanks text)
        return statement :: (← readAll fuel rest)

end Statement

end VehicleBus.Toml
