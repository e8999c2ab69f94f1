import VehicleBus.Binary.Binary64

/-!
# Nodes

A node is a value read from a structured text, before anyone asks whether it is
the value that was wanted.  Members of a table keep their order, and a key may
occur more than once.
-/

namespace VehicleBus

inductive Node where
  | null
  | flag (value : Bool)
  | integer (value : Int)
  | real (value : Binary64)
  | text (value : String)
  | list (items : List Node)
  | table (members : List (String × Node))
  /-- A value that is well formed and that no setting accepts, such as a date
  or a number beyond every range. -/
  | unusable
deriving Inhabited

end VehicleBus
