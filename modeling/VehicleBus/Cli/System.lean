import VehicleBus.Cli.Failure
import VehicleBus.Cli.Place
import VehicleBus.Wire.Varint

/-!
# The system around a run

Besides the files of a run, a host has directories, links between places, and
devices.  Which ones these are differs from host to host, so they are data here:
nothing about the command depends on a list of them.
-/

namespace VehicleBus.Cli

open Wire (Bytes)

/-- Where the messages of a run go. -/
inductive Destination where
  | standardOutput
  | standardError
  | file (place : Place)
  | nowhere
  /-- A device that takes no byte. -/
  | full
deriving DecidableEq, Repr

/-- A file that the system keeps: what it gives when it is read, and where that
goes which is written to it. -/
structure Device where
  reads : Except HostFault Bytes
  writes : Except HostFault Destination
deriving Repr

structure System where
  /-- The directories besides the working one.  What lies above a directory is one
  too, so it need not be listed. -/
  folders : List Place := []
  /-- Links by their places, with the places that they stand for. -/
  links : List (Place × Place) := []
  devices : List (Place × Device) := []
  /-- Directories that only the system fills, with the fault of adding a file. -/
  closed : List (Place × HostFault) := []
  /-- Directories that are views of the system itself.  Names in them have no
  bound, and one that is not there is merely missing. -/
  views : List Place := []
deriving Repr

namespace System

/-- The device at a place. -/
def device? (system : System) (place : Place) : Option Device := system.devices.lookup place

/-- The place that a link at a place stands for, or the place itself. -/
def target (system : System) (place : Place) : Place := (system.links.lookup place).getD place

/-- The fault of adding a file to a directory. -/
def refusal? (system : System) (folder : Place) : Option HostFault :=
  (system.closed.find? fun (area, _) => folder.liesIn area).map (·.2)

/-- Do the names in a directory have a bound? -/
def boundsNames (system : System) (folder : Place) : Bool := !system.views.any (folder.liesIn ·)

end System

end VehicleBus.Cli
