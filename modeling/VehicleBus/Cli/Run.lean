import VehicleBus.Cli.Host
import VehicleBus.Cli.Machine

/-!
# Runs of the command

A host and what a run has shown so far make up a console, and a console is a
machine (`onHost`).  `run` is the command on it, as a function: from arguments, the
files of the host and its clock to the exit code, the output, the log and the files.
-/

namespace VehicleBus.Cli

open Wire (Bytes)

/-- What a run works on. -/
structure Surroundings where
  host : Host
  /-- The time of the host at each line of the input. -/
  clock : Nat → Time := fun _ => 0

/-- What a run leaves behind. -/
structure Outcome where
  code : Nat
  standardOutput : Bytes := []
  standardError : Bytes := []
  host : Host

/-- The bytes of a line of text. -/
def lineBytes (line : String) : Bytes := (line ++ "\n").toUTF8.data.toList

/-- A host in the course of a run. -/
structure Console where
  host : Host
  /-- What was put on standard output, the latest piece first. -/
  standardOutput : List Bytes := []
  /-- What was put on standard error, the latest piece first. -/
  standardError : List Bytes := []

namespace Console

/-- Put a line on standard error. -/
def log (console : Console) (line : String) : Console :=
  { console with standardError := lineBytes line :: console.standardError }

/-- Put lines on standard output. -/
def print (console : Console) (text : String) : Console :=
  { console with standardOutput := lineBytes text :: console.standardOutput }

/-- Empty the file of a destination, or add it. -/
def clear (console : Console) (destination : Destination) : Console :=
  { console with host := console.host.write destination [] }

/-- Clear the destination that a path leads to. -/
def create (console : Console) (path : String) : Except HostFault Destination × Console :=
  match console.host.destination path with
  | .error cause => (.error cause, console)
  | .ok destination => (.ok destination, console.clear destination)

/-- Write bytes behind those that a destination got before. -/
def write (console : Console) (destination : Destination) (bytes : Bytes) :
    Except OutputFault Unit × Console :=
  match destination with
  | .standardOutput => (.ok (), { console with standardOutput := bytes :: console.standardOutput })
  | .standardError => (.ok (), { console with standardError := bytes :: console.standardError })
  | .file place =>
    let before := (console.host.file? place).getD []
    (.ok (), { console with host := console.host.write (.file place) (before ++ bytes) })
  | .nowhere => (.ok (), console)
  | .full => (.error .deviceFull, console)

/-- What a run leaves behind that ends here. -/
def outcome (console : Console) (code : Nat) : Outcome where
  code
  standardOutput := console.standardOutput.reverse.flatten
  standardError := console.standardError.reverse.flatten
  host := console.host

end Console

/-- Hand lines to a step, each at the time of its number, until the step is done. -/
def eachLine {m : Type → Type} [Monad m] {σ : Type} (clock : Nat → Time)
    (step : Time → Except HostFault Bytes → σ → m (ForInStep σ)) (number : Nat) :
    List (Except HostFault Bytes) → σ → m σ
  | [], state => return state
  | line :: rest, state => do
    match ← step (clock number) line state with
    | .done state => return state
    | .yield state => eachLine clock step (number + 1) rest state

/-- A console as a machine. -/
def onHost (clock : Nat → Time) : Machine (StateM Console) where
  Output := Destination
  Input := List (Except HostFault Bytes)
  log line := modify (·.log line)
  print text := modify (·.print text)
  readFile path := return (← get).host.read path
  standardOutput := return .standardOutput
  createFile path := modifyGet (·.create path)
  write destination bytes := modifyGet (·.write destination bytes)
  standardInput := return (linesOf (← get).host.input).map .ok
  openFile path := return (← get).host.lines path
  eachLine input step state := eachLine clock step 0 input state

/-- Run the command. -/
def run (surroundings : Surroundings) (arguments : List String) : Outcome :=
  let (code, console) :=
    ((onHost surroundings.clock).command arguments).run { host := surroundings.host }
  console.outcome code

end VehicleBus.Cli
