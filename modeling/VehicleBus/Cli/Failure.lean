import VehicleBus.Fault
import VehicleBus.Text.Quoted

/-!
# Failures of a run

A run ends early when a file cannot be used or when a configuration is refused.
A failure names what was tried and the causes behind it, and is written out over
several lines.
-/

namespace VehicleBus.Cli

/-- Why the host system did not do what was asked. -/
inductive HostFault where
  | notFound
  | notDirectory
  | isDirectory
  | nameTooLong
  | notPermitted
  | noDevice
  /-- The bytes are no UTF-8 text. -/
  | notText
  | other (text : String)
deriving DecidableEq, Repr

namespace HostFault

def message : HostFault → String
  | notFound => "No such file or directory (os error 2)"
  | notDirectory => "Not a directory (os error 20)"
  | isDirectory => "Is a directory (os error 21)"
  | nameTooLong => "File name too long (os error 36)"
  | notPermitted => "Permission denied (os error 13)"
  | noDevice => "No such device or address (os error 6)"
  | notText => "stream did not contain valid UTF-8"
  | other text => text

end HostFault

inductive Failure where
  | unreadableConfig (path : String) (cause : HostFault)
  | malformedConfig (path : String)
  | invalidConfig (path : String) (fault : Fault)
  | output (path : String) (cause : HostFault)
  | build (fault : Fault)
  | input (path : String) (cause : HostFault)
  | unreadableInput (cause : HostFault)
  | flush (cause : OutputFault)
deriving DecidableEq, Repr

namespace Failure

def message : Failure → String
  | unreadableConfig path _ => "Failed to read config file: " ++ Text.quoted path.toList
  | malformedConfig path => "Invalid config file: " ++ Text.quoted path.toList
  | invalidConfig path _ => "Invalid config file: " ++ Text.quoted path.toList
  | output path _ => "Failed to create output file: " ++ Text.quoted path.toList
  | build _ => "Failed to build translator"
  | input path _ => "Failed to open input file: " ++ Text.quoted path.toList
  | unreadableInput _ => "Failed to read input"
  | flush _ => "Failed to flush output"

/-- What lies behind a failure, the outermost cause first. -/
def causes : Failure → List String
  | unreadableConfig _ cause => [cause.message]
  | malformedConfig _ => ["Failed to parse TOML", "the text describes no vehicle"]
  | invalidConfig _ fault => [fault.message]
  | output _ cause => [cause.message]
  | build fault => [fault.message]
  | input _ cause => [cause.message]
  | unreadableInput cause => [cause.message]
  | flush cause => [(Fault.output cause).message, cause.message]

/-- The lines of a text, with a lead in front of the first and another one in
front of the others. -/
def indent (first others text : String) : List String :=
  match text.splitOn "\n" with
  | [] => []
  | line :: lines => (first ++ line) :: lines.map (others ++ ·)

/-- The lines of the causes: a single one is indented, several are numbered. -/
def causeLines : List String → List String
  | [cause] => indent "    " "    " cause
  | causes =>
    causes.zipIdx.flatMap fun (cause, number) => indent s!"    {number}: " "       " cause

/-- The lines that report a failure. -/
def lines (failure : Failure) : List String :=
  ["Error: " ++ failure.message, "", "Caused by:"] ++ causeLines failure.causes

end Failure

end VehicleBus.Cli
