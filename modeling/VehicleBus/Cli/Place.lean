/-!
# Places in the tree of files

A place is where a file or a directory may be, by the names that lead to it from
the root.  Each place has one path without detours.
-/

namespace VehicleBus.Cli

/-- The name that leads to the directory above. -/
def aboveName : String := ".."

/-- The parts of a path. -/
def pathParts (path : String) : List String :=
  ((path.toList.splitOn '/').map String.ofList).filter (· != "")

structure Place where
  /-- The names on the way from the root, the last one first. -/
  names : List String
deriving DecidableEq, Repr

namespace Place

/-- The place of the names in a path from the root. -/
def ofPath (path : String) : Place := ⟨(pathParts path).reverse⟩

/-- The path to a place. -/
def path (place : Place) : String := "/" ++ "/".intercalate place.names.reverse

/-- The place of a name in a directory. -/
def child (place : Place) (name : String) : Place := ⟨name :: place.names⟩

/-- The directory that holds a place; the root is above itself. -/
def parent (place : Place) : Place := ⟨place.names.tail⟩

/-- Does a place lie in a directory, or is it that directory? -/
def liesIn (place folder : Place) : Bool := folder.names.isSuffixOf place.names

end Place

end VehicleBus.Cli
