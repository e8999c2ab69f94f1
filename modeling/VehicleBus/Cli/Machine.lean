import VehicleBus.Cli.Session

/-!
# The command on a machine

A machine is what the command runs on: it has files, standard streams, a log, and
lines of input that come with the time.  `Machine.command` is the command on any
machine.  The order of its steps is written here and nowhere else, so a machine
that is a value (`VehicleBus.Cli.Run`) goes through the same steps as the real one
(`VehicleBus.Main`).
-/

namespace VehicleBus.Cli

open Wire (Bytes)

/-- What the command asks of the machine that it runs on. -/
structure Machine (m : Type → Type) where
  /-- A stream or an open file that messages are written to. -/
  Output : Type
  /-- A stream or an open file that lines are read from. -/
  Input : Type
  /-- Put a line on standard error. -/
  log : String → m Unit
  /-- Put lines on standard output. -/
  print : String → m Unit
  /-- The bytes of the file at a path. -/
  readFile : String → m (Except HostFault Bytes)
  standardOutput : m Output
  /-- Empty or add the file at a path. -/
  createFile : String → m (Except HostFault Output)
  write : Output → Bytes → m (Except OutputFault Unit)
  standardInput : m Input
  openFile : String → m (Except HostFault Input)
  /-- Hand the lines of an input to a step, each at its time, until it is done. -/
  eachLine {σ : Type} :
    Input → (Time → Except HostFault Bytes → σ → m (ForInStep σ)) → σ → m σ

/-- The reports that every run starts with. -/
def opening : List Report := [.started, .library]

/-- The answer to a request for the version. -/
def versionText : String := "can-translate-cli " ++ versionNumber

/-- The answer to a request for help. -/
def helpText : String :=
  "Translate CAN frames into JSON or protobuf vehicle messages\n\n" ++
  "Usage: can-translate-cli [OPTIONS] --config <FILE>\n\n" ++
  "Options:\n" ++
  "  -c, --config <FILE>       Path to the vehicle definition (TOML)\n" ++
  "  -i, --input <FILE>        Frame input in candump format (default: stdin)\n" ++
  "  -o, --output <FILE>       Output file for serialized messages (default: stdout)\n" ++
  "  -f, --format <FORMAT>     Override the output format: json or proto\n" ++
  "      --replay-time         Drive sampling clocks from the recorded frame timestamps\n" ++
  "      --max-frames <COUNT>  Maximum number of frames to process\n" ++
  "  -v, --verbose...          Verbosity level (can be repeated: -v, -vv)\n" ++
  "  -q, --quiet               Suppress all logging except errors\n" ++
  "  -h, --help                Print help\n" ++
  "  -V, --version             Print version"

namespace Machine

variable {m : Type → Type} [Monad m]

/-- Log the reports that options show. -/
def report (machine : Machine m) (options : Options) (reports : List Report) : m Unit :=
  (reports.filter (·.shownFrom options.threshold)).forM fun report => machine.log report.line

/-- The output that options ask for. -/
def output (machine : Machine m) (options : Options) : m (Except Failure machine.Output) :=
  match options.output with
  | none => return .ok (← machine.standardOutput)
  | some path => return (← machine.createFile path).mapError (.output path)

/-- The input that options ask for. -/
def input (machine : Machine m) (options : Options) : m (Except Failure machine.Input) :=
  match options.input with
  | none => return .ok (← machine.standardInput)
  | some path => return (← machine.openFile path).mapError (.input path)

/-- Let a session take a step, and write what its sink passes on in it.  If that is
refused, nothing has left the sink: it is told so, and the step is taken again. -/
def deliver {α : Type} (machine : Machine m) (output : machine.Output)
    (step : Session → Session × α) (session : Session) : m (Session × α) := do
  let (next, result) := step session
  let (next, bytes) := next.take
  if bytes.isEmpty then return (next, result)
  match ← machine.write output bytes with
  | .ok () => return (next, result)
  | .error fault => return step (session.refuse fault)

/-- Take one line of the input. -/
def takeLine (machine : Machine m) (options : Options) (output : machine.Output) (now : Time)
    (line : Except HostFault Bytes) (state : Session × Option Failure) :
    m (ForInStep (Session × Option Failure)) := do
  let (session, reports, ending) ← machine.deliver output (·.line now line) state.1
  machine.report options reports
  return session.proceed ending

/-- Replay the lines of an input.  What waits in the sink is passed on even if the
input fails. -/
def replay (machine : Machine m) (options : Options) (output : machine.Output)
    (input : machine.Input) (session : Session) : m (Session × Option Failure) := do
  let (session, failed) ← machine.eachLine input (machine.takeLine options output) (session, none)
  let (session, stuck) ← machine.deliver output Session.flush session
  return (session, failed <|> stuck)

/-- Run with given options, up to the first failure.  The file of the output is
emptied before the input is opened. -/
def perform (machine : Machine m) (options : Options) : m (Option Failure) := do
  machine.report options opening
  match options.vehicle (← machine.readFile options.config) with
  | .error failure => return failure
  | .ok vehicle =>
    machine.report options [.configLoaded options.config]
    match ← machine.output options with
    | .error failure => return failure
    | .ok output =>
      match Session.start options vehicle (.blocks {}) with
      | .error failure => return failure
      | .ok (session, started) =>
        machine.report options started
        match ← machine.input options with
        | .error failure => return failure
        | .ok input =>
          let (session, failure) ← machine.replay options output input session
          if failure.isNone then machine.report options session.summary
          return failure

/-- Run the command, up to its exit code. -/
def command (machine : Machine m) (arguments : List String) : m Nat := do
  match Request.ofArguments arguments with
  | .error fault =>
    machine.log s!"error: {fault.message}"
    return 2
  | .ok .help =>
    machine.print helpText
    return 0
  | .ok .version =>
    machine.print versionText
    return 0
  | .ok (.run options) =>
    match ← machine.perform options with
    | none => return 0
    | some failure =>
      failure.lines.forM machine.log
      return 1

end Machine

end VehicleBus.Cli
