import VehicleBus.Cli.Lines
import VehicleBus.Cli.System

/-!
# The files of a host

The files that a run of the command can reach are those that it finds, what it
adds, and the devices of the system.  A path leads to a file part by part, and
every part but the last must be a directory.  Standard input reads a file too, so
a run that overwrites this file finds it empty.
-/

namespace VehicleBus.Cli

open Wire (Bytes)

/-- What a file is opened for.  It is created if it is to be written. -/
inductive Purpose where
  | reading
  | writing
deriving DecidableEq, Repr

/-- What is found at a place. -/
inductive Entry where
  | folder (place : Place)
  | file (place : Place)
  | missing (place : Place)
deriving DecidableEq, Repr

/-- The largest number of bytes in a name. -/
def longestName : Nat := 255

/-- The largest number of bytes in a path. -/
def longestPath : Nat := 4095

structure Host where
  workingDirectory : Place
  files : List (Place × Bytes)
  /-- The place of the file that standard input reads. -/
  standardInput : Place
  /-- What the host has besides these files. -/
  system : System := {}
deriving Repr

namespace Host

/-- A host with files in its working directory by their names, and with one of
these names for standard input. -/
def ofFiles (workingDirectory : Place) (files : List (String × Bytes)) (input : String)
    (system : System := {}) : Host where
  workingDirectory
  files := files.map fun (name, bytes) => (workingDirectory.child name, bytes)
  standardInput := workingDirectory.child input
  system

/-- The bytes of the file at a place. -/
def file? (host : Host) (place : Place) : Option Bytes := host.files.lookup place

/-- The bytes that standard input reads. -/
def input (host : Host) : Bytes := (host.file? host.standardInput).getD []

/-- Is there a directory at a place? -/
def isFolder (host : Host) (place : Place) : Bool :=
  (host.workingDirectory :: host.system.folders).any (·.liesIn place)

/-- Is there a file at a place? -/
def isFile (host : Host) (place : Place) : Bool :=
  (host.file? place).isSome || (host.system.device? place).isSome

/-- What a part of a path leads to from a place; a dot stays there. -/
def entry (host : Host) (place : Place) (part : String) : Except HostFault Entry :=
  if part = "." then .ok (.folder place)
  else if part = aboveName then .ok (.folder place.parent)
  else if longestName < part.utf8ByteSize && host.system.boundsNames place then .error .nameTooLong
  else
    let inner := host.system.target (place.child part)
    if host.isFolder inner then .ok (.folder inner)
    else if host.isFile inner then .ok (.file inner)
    else .ok (.missing inner)

/-- The place behind a part of a path that is not its last one. -/
def enter (host : Host) (place : Place) (part : String) : Except HostFault Place :=
  match host.entry place part with
  | .ok (.folder inner) => .ok inner
  | .ok (.file _) => .error .notDirectory
  | .ok (.missing _) => .error .notFound
  | .error cause => .error cause

/-- The place of the file that a path leads to, which may be missing.  A slash at
the end asks for a directory, and a directory is not created. -/
def resolve (host : Host) (purpose : Purpose) (path : String) : Except HostFault Place := do
  let asksFolder := path.endsWith "/"
  if path.isEmpty then throw .notFound
  if longestPath < path.utf8ByteSize then throw .nameTooLong
  match (pathParts path).reverse with
  | [] => throw .isDirectory
  | last :: outer =>
    let start := if path.startsWith "/" then .ofPath "/" else host.workingDirectory
    let place ← outer.reverse.foldlM host.enter start
    if asksFolder && purpose = .writing then throw .isDirectory
    match ← host.entry place last with
    | .folder _ => throw .isDirectory
    | .file found => if asksFolder then throw .notDirectory else return found
    | .missing found =>
      if asksFolder then throw .notFound
      match purpose, host.system.refusal? found.parent with
      | .writing, some fault => throw fault
      | _, _ => return found

/-- The bytes of the file that a path leads to. -/
def read (host : Host) (path : String) : Except HostFault Bytes := do
  let found ← host.resolve .reading path
  match host.system.device? found, host.file? found with
  | some device, _ => device.reads
  | none, some bytes => return bytes
  | none, none => throw .notFound

/-- The lines of the file that a path leads to.  A directory can be opened like a
file, but its first line is unreadable. -/
def lines (host : Host) (path : String) : Except HostFault (List (Except HostFault Bytes)) :=
  match host.read path with
  | .ok bytes => .ok ((linesOf bytes).map .ok)
  | .error .isDirectory => .ok [.error .isDirectory]
  | .error cause => .error cause

/-- Where messages go that are written to a path. -/
def destination (host : Host) (path : String) : Except HostFault Destination := do
  let found ← host.resolve .writing path
  match host.system.device? found with
  | some device => device.writes
  | none => return .file found

/-- The host with given bytes, and no others, in the file of a destination. -/
def write (host : Host) (destination : Destination) (bytes : Bytes) : Host :=
  match destination with
  | .file place => { host with files := (place, bytes) :: host.files.filter (·.1 != place) }
  | _ => host

end Host

end VehicleBus.Cli
