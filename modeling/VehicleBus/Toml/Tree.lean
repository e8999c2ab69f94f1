import VehicleBus.Node

/-!
# Tables under construction

The statements of a TOML text fill a tree of tables.  What a later statement may
still do to a table depends on how the table came to be, so the tree remembers
that: a table that has its own header is closed to dotted keys and to a second
header, and one that dotted keys made is closed to headers.  Values are closed
to everything.

`Members.assign`, `Members.openTable` and `Members.appendTable` are the three
kinds of statements.
-/

namespace VehicleBus.Toml

/-- How a table came to be. -/
inductive Origin where
  /-- It has a header of its own. -/
  | header
  /-- It stands on the way to a table with a header. -/
  | passage
  /-- It stands on the way of a dotted key. -/
  | dotted
deriving DecidableEq, Repr

/-- The tables to go through, and a name in the last of them. -/
structure Path where
  tables : List String
  name : String
deriving DecidableEq, Repr

inductive Item where
  | value (node : Node)
  | table (origin : Origin) (members : List (String × Item))
  /-- A list of tables, of which only the last one is still open. -/
  | tables (earlier : List Node) (members : List (String × Item))

abbrev Members := List (String × Item)

mutual

/-- What an item is when the text ends. -/
def Item.node : Item → Node
  | .value node => node
  | .table _ members => .table (Members.nodes members)
  | .tables earlier members => .list (earlier ++ [.table (Members.nodes members)])

def Members.nodes : List (String × Item) → List (String × Node)
  | [] => []
  | (key, item) :: rest => (key, item.node) :: Members.nodes rest

end

namespace Members

/-- The table that members make up. -/
def node (members : Members) : Node := .table (nodes members)

/-- Change the member with a key, or add one. -/
def alter (key : String) (change : Option Item → Option Item) : Members → Option Members
  | [] => (change none).map fun item => [(key, item)]
  | (other, item) :: rest =>
    if other = key then (change (some item)).map fun item => (other, item) :: rest
    else (alter key change rest).map ((other, item) :: ·)

/-- Change the table at the end of a way, whose missing tables are added.  Only
headers may pass through a table that has a header. -/
def descend (added : Origin) (change : Origin → Members → Option Members) :
    (tables : List String) → (origin : Origin) → Members → Option Members
  | [], origin, members => change origin members
  | key :: tables, _, members =>
    members.alter key fun
      | none => (descend added change tables added []).map (.table added)
      | some (.value _) => none
      | some (.table origin members) =>
        if added = .dotted ∧ origin = .header then none
        else (descend added change tables origin members).map (.table origin)
      | some (.tables earlier members) =>
        (descend added change tables .header members).map (.tables earlier)

/-- Give a value to a dotted key, which must be new.  Behind a dot only tables
are filled that dotted keys made. -/
def assign (path : Path) (value : Node) (members : Members) : Option Members :=
  descend .dotted (fun origin members =>
    if !path.tables.isEmpty && origin != .dotted then none
    else members.alter path.name fun
      | none => some (.value value)
      | some _ => none) path.tables .header members

/-- Change the table or list that a header names. -/
def alterHeader (path : Path) (change : Option Item → Option Item) (members : Members) :
    Option Members :=
  descend .passage (fun _ members => members.alter path.name change) path.tables .header members

/-- Open a table by its header. -/
def openTable (path : Path) : Members → Option Members :=
  alterHeader path fun
    | none => some (.table .header [])
    | some (.table .passage members) => some (.table .header members)
    | some _ => none

/-- Append a table to a list of tables by its header. -/
def appendTable (path : Path) : Members → Option Members :=
  alterHeader path fun
    | none => some (.tables [] [])
    | some (.tables earlier members) => some (.tables (earlier ++ [node members]) [])
    | some _ => none

/-- Give a value to a key below a table that has a header. -/
def assignBelow (tables : List String) (path : Path) (value : Node) (members : Members) :
    Option Members :=
  descend .passage (fun _ members => members.assign path value) tables .header members

end Members

end VehicleBus.Toml
