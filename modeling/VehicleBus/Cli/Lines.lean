import VehicleBus.Wire.Varint

/-!
# Lines

A file of frames is taken apart at its line feeds, and the bytes of a line are
looked at one line at a time, so an unreadable line hides nothing before it.
-/

namespace VehicleBus.Cli

open Wire (Bytes)

/-- The pieces of some bytes between line feeds. -/
def pieces : Bytes → List Bytes
  | [] => [[]]
  | byte :: rest =>
    if byte = 10 then [] :: pieces rest
    else
      match pieces rest with
      | first :: others => (byte :: first) :: others
      | [] => [[byte]]

/-- A line without a carriage return at its end. -/
def dropReturn (line : Bytes) : Bytes :=
  if line.getLast? = some 13 then line.dropLast else line

/-- The lines of some bytes.  What stands behind the last line feed is a line
only if it is not empty, and a carriage return at its end belongs to it. -/
def linesOf (bytes : Bytes) : List Bytes :=
  let all := pieces bytes
  let last := all.getLast?.getD []
  all.dropLast.map dropReturn ++ if last.isEmpty then [] else [last]

end VehicleBus.Cli
