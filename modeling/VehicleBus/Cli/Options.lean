import VehicleBus.Encoding
import VehicleBus.Text.Integer

/-!
# Options of the command

Arguments are read in two steps.  First each is taken apart into choices: long
options by name with a value behind an equals sign or in the next argument,
short ones by letter, several of them in one argument.  Then the choices are
checked in order.  A choice that asks for help or for the version is answered at
once, so what stands behind it is never looked at.
-/

namespace VehicleBus.Cli

/-- An option that takes a value. -/
inductive Setting where
  | config
  | input
  | output
  | format
  | limit
deriving DecidableEq, Repr

/-- An option without a value. -/
inductive Switch where
  | recordedTime
  | verbose
  | quiet
  | help
  | version
deriving DecidableEq, Repr

namespace Setting

def all : List Setting := [config, input, output, format, limit]

def name : Setting → String
  | config => "config"
  | input => "input"
  | output => "output"
  | format => "format"
  | limit => "max-frames"

def letter? : Setting → Option Char
  | config => some 'c'
  | input => some 'i'
  | output => some 'o'
  | format => some 'f'
  | limit => none

/-- The count that a text stands for. -/
def count? (text : String) : Option Nat := (Text.readUnsigned 10 UInt64.size text.toList).toOption

/-- May an option have a value? -/
def accepts (value : String) : Setting → Bool
  | config => value != ""
  | input => value != ""
  | output => value != ""
  | format => (OutputFormat.ofName? value).isSome
  | limit => (count? value).isSome

end Setting

namespace Switch

def all : List Switch := [recordedTime, verbose, quiet, help, version]

def name : Switch → String
  | recordedTime => "replay-time"
  | verbose => "verbose"
  | quiet => "quiet"
  | help => "help"
  | version => "version"

def letter? : Switch → Option Char
  | recordedTime => none
  | verbose => some 'v'
  | quiet => some 'q'
  | help => some 'h'
  | version => some 'V'

end Switch

/-- Why arguments are refused. -/
inductive UsageFault where
  | unknown (argument : String)
  | missingValue (setting : Setting)
  | unexpectedValue (switch : Switch)
  | invalidValue (setting : Setting) (value : String)
  | repeated (name : String)
  | noConfig
deriving DecidableEq, Repr

namespace UsageFault

def message : UsageFault → String
  | unknown argument => s!"unexpected argument '{argument}'"
  | missingValue setting => s!"option '--{setting.name}' needs a value"
  | unexpectedValue switch => s!"option '--{switch.name}' takes no value"
  | invalidValue setting value => s!"invalid value '{value}' for option '--{setting.name}'"
  | repeated name => s!"option '--{name}' stands twice"
  | noConfig => "option '--config' is required"

end UsageFault

/-- One thing that arguments say. -/
inductive Choice where
  | value (setting : Setting) (text : String)
  | switch (switch : Switch)
  | fault (fault : UsageFault)
deriving DecidableEq, Repr

namespace Choice

/-- Read short options that share an argument; the last one may await a value. -/
def readLetters : List Char → List Choice × Option Setting
  | [] => ([], none)
  | c :: rest =>
    match Setting.all.find? (·.letter? == some c), Switch.all.find? (·.letter? == some c) with
    | some setting, _ =>
      match rest with
      | [] => ([], some setting)
      | '=' :: text => ([value setting (String.ofList text)], none)
      | text => ([value setting (String.ofList text)], none)
    | none, some option =>
      let (choices, awaiting) := readLetters rest
      (switch option :: choices, awaiting)
    | none, none => ([fault (.unknown (String.ofList ['-', c]))], none)

/-- Read a long option, which may await a value. -/
def readName (text : List Char) : List Choice × Option Setting :=
  let name := String.ofList (text.takeWhile (· != '='))
  let attached := match text.dropWhile (· != '=') with
    | _ :: text => some (String.ofList text)
    | [] => none
  match Setting.all.find? (·.name == name), Switch.all.find? (·.name == name), attached with
  | some setting, _, some text => ([value setting text], none)
  | some setting, _, none => ([], some setting)
  | none, some option, none => ([switch option], none)
  | none, some option, some _ => ([fault (.unexpectedValue option)], none)
  | none, none, _ => ([fault (.unknown ("--" ++ name))], none)

/-- Read an argument by itself.  A lone dash is no option, and nothing but
options is taken. -/
def readArgument (argument : String) : List Choice × Option Setting :=
  match argument.toList with
  | '-' :: '-' :: name => readName name
  | '-' :: c :: letters => readLetters (c :: letters)
  | _ => ([fault (.unknown argument)], none)

/-- Does an argument look like an option, so that it is no value? -/
def isOptionLike (argument : String) : Bool :=
  argument.toList.head? == some '-' && argument != "-"

/-- Read arguments; `awaiting` is the option whose value comes next.  Behind two
dashes nothing may follow. -/
def readAll (awaiting : Option Setting) : List String → List Choice
  | [] =>
    match awaiting with
    | some setting => [fault (.missingValue setting)]
    | none => []
  | argument :: rest =>
    match awaiting with
    | some setting =>
      if isOptionLike argument then [fault (.missingValue setting)]
      else value setting argument :: readAll none rest
    | none =>
      if argument = "--" then rest.map fun argument => fault (.unknown argument)
      else
        let (choices, awaiting) := readArgument argument
        choices ++ readAll awaiting rest

/-- The name of an option that may stand only once. -/
def onceName? : Choice → Option String
  | value setting _ => some setting.name
  | switch .verbose => none
  | switch option => some option.name
  | fault _ => none

/-- What is wrong with a choice behind given earlier ones. -/
def fault? (earlier : List Choice) : Choice → Option UsageFault
  | fault reason => some reason
  | choice =>
    match choice.onceName?, choice with
    | some name, value setting text =>
      if earlier.any (·.onceName? == some name) then some (.repeated name)
      else if setting.accepts text then none
      else some (.invalidValue setting text)
    | some name, _ =>
      if earlier.any (·.onceName? == some name) then some (.repeated name) else none
    | none, _ => none

/-- Among choices, the value of an option. -/
def valueOf? (setting : Setting) (choices : List Choice) : Option String :=
  choices.findSome? fun
    | value other text => if other = setting then some text else none
    | _ => none

end Choice

/-- The options of a run. -/
structure Options where
  config : String
  /-- The file of frames, `none` for standard input. -/
  input : Option String
  /-- The file of messages, `none` for standard output. -/
  output : Option String
  /-- The format instead of the configured one. -/
  format : Option OutputFormat
  /-- Do recorded times drive the clocks? -/
  recordedTime : Bool
  /-- Most frames to handle. -/
  limit : Option Nat
  verbosity : Nat
  quiet : Bool
deriving DecidableEq, Repr

/-- What arguments ask for. -/
inductive Request where
  | run (options : Options)
  | help
  | version
deriving DecidableEq, Repr

namespace Request

/-- The options that sound choices make up. -/
def ofChoices (choices : List Choice) : Except UsageFault Request :=
  match Choice.valueOf? .config choices with
  | none => .error .noConfig
  | some config => .ok (.run {
      config
      input := Choice.valueOf? .input choices
      output := Choice.valueOf? .output choices
      format := (Choice.valueOf? .format choices).bind OutputFormat.ofName?
      recordedTime := choices.contains (.switch .recordedTime)
      limit := (Choice.valueOf? .limit choices).bind Setting.count?
      verbosity := choices.count (.switch .verbose)
      quiet := choices.contains (.switch .quiet) })

/-- Go through choices in order; `earlier` are those that were sound. -/
def follow (earlier : List Choice) : List Choice → Except UsageFault Request
  | [] => ofChoices earlier
  | choice :: rest =>
    match choice.fault? earlier with
    | some fault => .error fault
    | none =>
      match choice with
      | .switch .help => .ok .help
      | .switch .version => .ok .version
      | choice => follow (earlier ++ [choice]) rest

/-- What the arguments of the command ask for. -/
def ofArguments (arguments : List String) : Except UsageFault Request :=
  follow [] (Choice.readAll none arguments)

end Request

end VehicleBus.Cli
