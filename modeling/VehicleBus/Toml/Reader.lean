import VehicleBus.Toml.Statement

/-!
# Reading TOML texts

`Node.ofToml?` reads a text as the table that its statements build.
-/

namespace VehicleBus

namespace Toml

/-- The tables built so far, and the one that settings go to. -/
structure Build where
  members : Members := []
  current : List String := []

/-- Follow one statement. -/
def Build.follow (build : Build) : Statement → Option Build
  | .table path => do
    return { members := ← build.members.openTable path, current := path.tables ++ [path.name] }
  | .element path => do
    return { members := ← build.members.appendTable path, current := path.tables ++ [path.name] }
  | .setting path value => do
    return { build with members := ← build.members.assignBelow build.current path value }

/-- A text without a byte order mark in front. -/
def dropMark : List Char → List Char
  | c :: rest => if c.toNat = 0xFEFF then rest else c :: rest
  | [] => []

end Toml

/-- Read a TOML text as a whole. -/
def Node.ofToml? (text : String) : Option Node := do
  let characters := Toml.unifyLines (Toml.dropMark text.toList)
  let statements ← Toml.Statement.readAll (characters.length + 1) characters
  let build ← statements.foldlM Toml.Build.follow {}
  return build.members.node

end VehicleBus
