import VehicleBus.Notice

/-!
# The catalog of forwarded messages

The catalog holds one definition for each kind of frame that is forwarded
undecoded.  Definitions come from the configuration or are made when a key is
seen for the first time; they are never removed, and there is room for a fixed
number of them.  First come, first served: a key that finds no room is refused
every time it is seen.
-/

namespace VehicleBus

namespace Catalog

/-- What is known about one kind of forwarded frame. -/
structure Definition where
  key : Key
  /-- Payload of the frame seen last, zero before the first one. -/
  lastPayload : Payload := 0
  clock : Sampling.Clock := {}
  /-- Forward a changed payload at once, whatever the clock says. -/
  forceChanged : Bool := false
deriving DecidableEq, Repr, Inhabited

end Catalog

structure Catalog where
  /-- Definitions in the order in which they came. -/
  definitions : List Catalog.Definition := []
  capacity : Nat
  /-- Rate limit of definitions that are made when a key is first seen. -/
  defaultFrequency : Binary32 := Binary32.zero
  /-- How often a key found no room. -/
  refusals : Nat := 0
deriving DecidableEq, Repr, Inhabited

namespace Catalog

/-- The definition of a key. -/
def find? (catalog : Catalog) (key : Key) : Option Definition :=
  catalog.definitions.find? (·.key == key)

def isFull (catalog : Catalog) : Bool := decide (catalog.capacity ≤ catalog.definitions.length)

/-- Replace the definition of a key by what a function makes of it. -/
def update (catalog : Catalog) (key : Key) (change : Definition → Definition) : Catalog :=
  { catalog with
    definitions := catalog.definitions.map fun d => if d.key == key then change d else d }

/-- Put a definition behind the others. -/
def append (catalog : Catalog) (definition : Definition) : Catalog :=
  { catalog with definitions := catalog.definitions ++ [definition] }

/-- See to it that a key has a definition, and say whether it has one. -/
def register (catalog : Catalog) (key : Key) : Catalog × Bool × List Notice :=
  if (catalog.find? key).isSome then (catalog, true, [])
  else if catalog.isFull then
    ({ catalog with refusals := catalog.refusals + 1 }, false,
      [.refused (catalog.refusals == 0) key catalog.capacity])
  else
    (catalog.append { key, clock := .ofFrequency catalog.defaultFrequency }, true, [])

/-- Add a definition whose key has none yet. -/
def preload (catalog : Catalog) (definition : Definition) : Except Fault Catalog :=
  if (catalog.find? definition.key).isSome then .error (.duplicateMessage definition.key)
  else if catalog.isFull then .error (.catalogFull definition.key catalog.capacity)
  else .ok (catalog.append definition)

/-- The message that forwards a payload, or a notice that it is held back. -/
def forward (key : Key) (data : Payload) (send : Bool) : Step :=
  if send then .send (.raw key data) else .note (.suppressed key)

/-- Pass on a frame that is not decoded.  A key that is new is forwarded at once
if there is room for it, a known one when its clock ticks or its payload has
changed and changes are asked for. -/
def pass (catalog : Catalog) (key : Key) (data : Payload) (now : Time) : Catalog × List Step :=
  match catalog.find? key with
  | none =>
    let (catalog, registered, notices) := catalog.register key
    (catalog.update key fun d => { d with lastPayload := data },
      .note (.adding key) :: notices.map .note ++ [forward key data registered])
  | some definition =>
    let (clock, ticked) := definition.clock.poll now
    let changed := data != definition.lastPayload
    (catalog.update key fun d => { d with clock, lastPayload := data },
      [forward key data (ticked || (changed && definition.forceChanged))])

end Catalog

end VehicleBus
