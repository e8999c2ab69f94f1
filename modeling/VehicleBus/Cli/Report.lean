import VehicleBus.Frame.Line
import VehicleBus.Pipeline
import VehicleBus.Router

/-!
# Reports of a run

What a run logs about its progress, as data: its own milestones and the notices
of its translator.  Each report has a level, and `Report.line` is its line in
the log.
-/

namespace VehicleBus.Cli

/-- The version of the command and of the library. -/
def versionNumber : String := "0.1.0"

inductive Report where
  | started
  | library
  | configLoaded (path : String)
  | translator (notice : Notice)
  | skipped (number : Nat) (fault : LineFault)
  | limitReached (count : Nat)
  | frames (counts : FrameCounts)
  | messages (format : OutputFormat) (counts : PipelineCounts)
  | catalog (known capacity refused : Nat)
  | definition (key : Key)
deriving DecidableEq, Repr

namespace Report

def level : Report → Level
  | started => .info
  | library => .info
  | configLoaded _ => .debug
  | translator notice => notice.level
  | skipped _ _ => .warn
  | limitReached _ => .info
  | frames _ => .info
  | messages _ _ => .info
  | catalog _ _ _ => .info
  | definition _ => .debug

/-- The part of the program that a report comes from. -/
def source : Report → String
  | translator notice => notice.source
  | _ => "can_translate_cli"

def text : Report → String
  | started => "CAN Translate CLI v" ++ versionNumber
  | library => "Using translator library v" ++ versionNumber
  | configLoaded path => "Configuration loaded: " ++ Text.quoted path.toList
  | translator notice => notice.text
  | skipped number fault => s!"Skipping line {number}: {fault.message}"
  | limitReached count => s!"Reached frame limit of {count}"
  | frames c =>
    s!"Processed {c.processed} frames: {c.translated} translated, " ++
      s!"{c.passedThrough} passed through, {c.ignored} ignored"
  | messages format c =>
    s!"Sent {c.sent} {format.name} messages ({c.bytes} bytes), dropped {c.dropped}"
  | catalog known capacity refused =>
    s!"{known} of {capacity} raw definitions cataloged, {refused} frames refused"
  | definition key => "  " ++ key.describe

/-- The line of a report in the log. -/
def line (report : Report) : String :=
  s!"[{report.level.label} {report.source}] {report.text}"

/-- Is a report shown from a level on? -/
def shownFrom (least : Level) (report : Report) : Bool :=
  decide (least.rank ≤ report.level.rank)

end Report

end VehicleBus.Cli
