import VehicleBus.Cli.Failure
import VehicleBus.Cli.Options
import VehicleBus.Cli.Report
import VehicleBus.Config.Reading
import VehicleBus.Translator

/-!
# Sessions

A session feeds the lines of a log to a translator.  Lines that hold no frame
are skipped, and the session ends at its limit of frames or at a line that is no
text.  With recorded times, every frame is handled at the latest time that was
read so far; otherwise at the time of the host.
-/

namespace VehicleBus.Cli

open Wire (Bytes)

/-- The least level that is logged. -/
def Options.threshold (options : Options) : Level :=
  if options.quiet then .error
  else
    match options.verbosity with
    | 0 => .info
    | 1 => .debug
    | _ => .trace

/-- The text that bytes stand for. -/
def text? (bytes : Bytes) : Option String := String.fromUTF8? ⟨bytes.toArray⟩

/-- The configuration in a file, whose format options may replace. -/
def Options.vehicle (options : Options) (file : Except HostFault Bytes) :
    Except Failure Config.Vehicle :=
  match file with
  | .error cause => .error (.unreadableConfig options.config cause)
  | .ok bytes =>
    match text? bytes with
    | none => .error (.unreadableConfig options.config .notText)
    | some text =>
      match Config.Vehicle.ofToml? text with
      | none => .error (.malformedConfig options.config)
      | some vehicle =>
        match vehicle.validate with
        | .error fault => .error (.invalidConfig options.config fault)
        | .ok () => .ok { vehicle with format := options.format.getD vehicle.format }

structure Session where
  translator : Translator
  /-- Do recorded times drive the clocks? -/
  recordedTime : Bool
  /-- Most frames to handle. -/
  limit : Option Nat
  /-- The latest recorded time. -/
  time : Time := 0
  /-- Number of lines read. -/
  lines : Nat := 0
  /-- Number of frames handled. -/
  frames : Nat := 0

/-- Why a session takes no further line. -/
inductive Ending where
  | limitReached
  | failed (failure : Failure)
deriving DecidableEq, Repr

namespace Session

/-- A session with the translator of a configuration. -/
def start (options : Options) (vehicle : Config.Vehicle) (sink : Sink) :
    Except Failure (Session × List Report) :=
  match Translator.ofVehicle vehicle sink with
  | .error fault => .error (.build fault)
  | .ok (translator, notices) =>
    .ok ({ translator, recordedTime := options.recordedTime, limit := options.limit },
      notices.map .translator)

/-- Handle one frame. -/
def frame (session : Session) (now : Time) (frame : Frame) : Session × List Report :=
  let time := frame.timestamp.getD session.time
  let (translator, notices) := session.translator.frame frame.key frame.payload
    (if session.recordedTime then time else now)
  ({ session with translator, time, frames := session.frames + 1 }, notices.map .translator)

/-- Take one line, at a time of the host.  Whether the limit is reached is asked
first, so only a line behind the last frame shows it. -/
def line (session : Session) (now : Time) (line : Except HostFault Bytes) :
    Session × List Report × Option Ending :=
  if session.limit.any (· ≤ session.frames) then
    (session, [.limitReached session.frames], some .limitReached)
  else
    match line with
    | .error cause => (session, [], some (.failed (.unreadableInput cause)))
    | .ok bytes =>
      match text? bytes with
      | none => (session, [], some (.failed (.unreadableInput .notText)))
      | some text =>
        let session := { session with lines := session.lines + 1 }
        match Frame.ofLine text with
        | .ok none => (session, [], none)
        | .ok (some frame) =>
          let (session, reports) := session.frame now frame
          (session, reports, none)
        | .error fault => (session, [.skipped session.lines fault], none)

/-- How the input goes on behind a line: a session that has not ended takes the next
one, and a failure is kept. -/
def proceed (session : Session) : Option Ending → ForInStep (Session × Option Failure)
  | none => .yield (session, none)
  | some .limitReached => .done (session, none)
  | some (.failed failure) => .done (session, some failure)

/-- Pass on what waits in the sink. -/
def flush (session : Session) : Session × Option Failure :=
  match session.translator.flush with
  | .ok translator => ({ session with translator }, none)
  | .error cause => (session, some (.flush cause))

/-- Let the device behind the sink refuse what is passed on to it from now on. -/
def refuse (fault : OutputFault) (session : Session) : Session :=
  { session with translator := session.translator.refuse fault }

/-- Take the bytes that the sink gives away. -/
def take (session : Session) : Session × Bytes :=
  let (translator, messages) := session.translator.take
  ({ session with translator }, messages.flatten)

/-- The summary at the end of a session. -/
def summary (session : Session) : List Report :=
  let counts := session.translator.counts
  let catalog := session.translator.router.catalog
  [.frames counts.frames, .messages session.translator.pipeline.format counts.messages,
    .catalog counts.cataloged catalog.capacity counts.refused] ++
  catalog.definitions.map fun definition => .definition definition.key

end Session

end VehicleBus.Cli
