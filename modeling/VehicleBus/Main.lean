import VehicleBus.Cli.Lines
import VehicleBus.Cli.Machine

/-!
# The command

The outer layer: the machine that the program runs on.  What is asked of it, and in
which order, is written in `VehicleBus.Cli.Machine`.
-/

namespace VehicleBus.Cli

/-- The fault behind an error of the host system. -/
def HostFault.ofError : IO.Error → HostFault
  | .noFileOrDirectory _ _ _ => .notFound
  | .inappropriateType _ 20 _ => .notDirectory
  | .inappropriateType _ 21 _ => .isDirectory
  | .invalidArgument _ 36 _ => .nameTooLong
  | .permissionDenied _ 13 _ => .notPermitted
  | .noSuchThing _ 6 _ => .noDevice
  | error => .other error.toString

/-- The fault of an output behind an error of the host system. -/
def outputFault : IO.Error → OutputFault
  | .resourceExhausted _ 28 _ => .deviceFull
  | error => .host (HostFault.ofError error).message

/-- Do something on the host system. -/
def attempt {α ε : Type} (fault : IO.Error → ε) (action : IO α) : BaseIO (Except ε α) := do
  match ← action.toBaseIO with
  | .ok value => return .ok value
  | .error error => return .error (fault error)

/-- Open the file at a path. -/
def openStream (path : String) (mode : IO.FS.Mode) : IO IO.FS.Stream :=
  return .ofHandle (← IO.FS.Handle.mk path mode)

/-- Read up to the end of a line, `none` if there is nothing left.  A carriage
return belongs to the end only before a line feed. -/
partial def readLine (stream : IO.FS.Stream) (line : ByteArray) : IO (Option Wire.Bytes) := do
  let byte ← stream.read 1
  if byte.isEmpty then return if line.isEmpty then none else some line.data.toList
  else if byte.get! 0 = 10 then return some (dropReturn line.data.toList)
  else readLine stream (line ++ byte)

/-- Hand the lines of a stream to a step, each at the milliseconds since a time,
until the step is done. -/
partial def eachStreamLine {σ : Type} (origin : Nat) (stream : IO.FS.Stream)
    (step : Time → Except HostFault Wire.Bytes → σ → IO (ForInStep σ)) (state : σ) : IO σ := do
  match (← attempt HostFault.ofError (readLine stream ByteArray.empty)) with
  | .ok none => return state
  | line =>
    let now := UInt64.ofNat ((← IO.monoMsNow) - origin)
    match ← step now (line.map (·.getD [])) state with
    | .done state => return state
    | .yield state => eachStreamLine origin stream step state

/-- The machine that the program runs on. -/
def thisMachine : Machine IO where
  Output := IO.FS.Stream
  Input := IO.FS.Stream
  log line := IO.eprintln line
  print text := IO.println text
  readFile path := attempt HostFault.ofError do return (← IO.FS.readBinFile path).data.toList
  standardOutput := IO.getStdout
  createFile path := attempt HostFault.ofError (openStream path .write)
  write stream bytes := attempt outputFault do
    stream.write ⟨bytes.toArray⟩
    stream.flush
  standardInput := IO.getStdin
  openFile path := attempt HostFault.ofError (openStream path .read)
  eachLine stream step state := do eachStreamLine (← IO.monoMsNow) stream step state

end VehicleBus.Cli

def main (arguments : List String) : IO UInt32 :=
  return UInt32.ofNat (← VehicleBus.Cli.thisMachine.command arguments)
