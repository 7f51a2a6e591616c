import PartyBridge.Options.Settings
import PartyBridge.Text.ControlSequence
import PartyBridge.Text.Integer

/-!
# Parameters of the command line

The two positional parameters, the options that take a value and the switches; what each is called,
which variable stands in for it, and how its value is read.
-/

namespace PartyBridge.Options

inductive Parameter where
  | party
  | program
  | engine
  | engineArg
  | driverDir
  | driverCommand
  | marker
  | receiveTimeout
  | shutdownGrace
  | exitCloseGrace
  | logs
  | noLogs
  | logContent
  | logTimings
  | help
  | version
deriving Repr, DecidableEq, Inhabited

namespace Parameter

def name? : Parameter → Option String
  | .party | .program => none
  | .engine => some "engine"
  | .engineArg => some "engine-arg"
  | .driverDir => some "driver-dir"
  | .driverCommand => some "driver-cmd"
  | .marker => some "marker"
  | .receiveTimeout => some "receive-timeout-ms"
  | .shutdownGrace => some "shutdown-grace-ms"
  | .exitCloseGrace => some "exit-close-grace-ms"
  | .logs => some "logs"
  | .noLogs => some "no-logs"
  | .logContent => some "log-content"
  | .logTimings => some "log-timings"
  | .help => some "help"
  | .version => some "version"

/-- The name of the parameter's value. Switches have none. -/
def valueName? : Parameter → Option String
  | .party => some "PARTY"
  | .program => some "PROGRAM"
  | .engine => some "ENGINE_CMD"
  | .engineArg => some "ARG"
  | .driverDir => some "DRIVER_DIR"
  | .driverCommand => some "DRIVER_CMD"
  | .marker => some "MARKER"
  | .receiveTimeout => some "RECEIVE_TIMEOUT_MS"
  | .shutdownGrace => some "SHUTDOWN_GRACE_MS"
  | .exitCloseGrace => some "EXIT_CLOSE_GRACE_MS"
  | _ => none

def shown (p : Parameter) : String :=
  match p.name?, p.valueName? with
  | some name, some value => "--" ++ name ++ " <" ++ value ++ ">"
  | some name, none => "--" ++ name
  | none, some value => "<" ++ value ++ ">"
  | none, none => ""

def takesValue (p : Parameter) : Bool :=
  p.valueName?.isSome

/-- The environment variable that stands in for the parameter. -/
def standIn? : Parameter → Option String
  | .engine => some "VIADUCT_ENGINE"
  | .driverCommand => some "VIADUCT_DRIVER_CMD"
  | .logs => some "VIADUCT_LOGS"
  | .noLogs => some "VIADUCT_NO_LOGS"
  | .logContent => some "VIADUCT_LOG_CONTENT"
  | _ => none

def options : List Parameter :=
  [.engine, .engineArg, .driverDir, .driverCommand, .marker, .receiveTimeout, .shutdownGrace,
    .exitCloseGrace, .logs, .noLogs, .logContent, .logTimings, .help, .version]

def ofName? (name : String) : Option Parameter :=
  options.find? fun p => p.name? == some name

def ofLetter? (c : Char) : Option Parameter :=
  if c = 'h' then some .help else if c = 'V' then some .version else none

def positionals : List Parameter :=
  [.party, .program]

end Parameter

/-- Why a command line gives no settings: it has a fault, or asks for help or the version. -/
inductive Refusal where
  | missingRequired
  | unknownArgument (argument : String)
  | valueRequired (p : Parameter)
  | noSuchValue (value : String) (p : Parameter)
  | invalidValue (value : String) (p : Parameter) (cause : String)
  | unexpectedValue (value : String) (p : Parameter)
  | repeated (p : Parameter)
  | invalidEncoding
  | help
  | version
deriving Repr, DecidableEq

namespace Refusal

def about : String :=
  "Viaduct player: bridges a secure-computation engine and a per-party driver"

/-- What was given, as a message shows it between single quotes. -/
def given (text : String) : String :=
  "'" ++ Text.withoutControls text ++ "'"

def message : Refusal → String
  | .missingRequired => "error: the following required arguments were not provided:"
  | .unknownArgument argument => "error: unexpected argument " ++ given argument ++ " found"
  | .valueRequired p => "error: a value is required for '" ++ p.shown ++ "' but none was supplied"
  | .noSuchValue value p => "error: invalid value " ++ given value ++ " for '" ++ p.shown ++ "'"
  | .invalidValue value p cause =>
    "error: invalid value " ++ given value ++ " for '" ++ p.shown ++ "': " ++ cause
  | .unexpectedValue value p =>
    "error: unexpected value " ++ given value ++ " for '" ++ p.shown ++
      "' found; no more were expected"
  | .repeated p => "error: the argument '" ++ p.shown ++ "' cannot be used multiple times"
  | .invalidEncoding => "error: invalid UTF-8 was detected in one or more arguments"
  | .help => about
  | .version => "viaduct-player 0.1.0"

/-- Whether the text goes to the standard output, because it was asked for. -/
def askedFor : Refusal → Bool
  | .help | .version => true
  | _ => false

def exitCode (r : Refusal) : Int :=
  if r.askedFor then 0 else 2

end Refusal

structure Draft where
  party : Option Nat
  program : Option Bytes
  engine : Option String
  engineArgs : List String
  driverDir : Option Bytes
  driverCommand : Option String
  marker : Option String
  receiveTimeout : Option Nat
  shutdownGrace : Option Nat
  exitCloseGrace : Option Nat
  logs : Option Bool
  noLogs : Option Bool
  logContent : Option Bool
  logTimings : Option Bool
deriving Repr, DecidableEq, Inhabited

namespace Draft

def empty : Draft :=
  ⟨none, none, none, [], none, none, none, none, none, none, none, none, none, none⟩

def has (d : Draft) : Parameter → Bool
  | .party => d.party.isSome
  | .program => d.program.isSome
  | .engine => d.engine.isSome
  | .engineArg => !d.engineArgs.isEmpty
  | .driverDir => d.driverDir.isSome
  | .driverCommand => d.driverCommand.isSome
  | .marker => d.marker.isSome
  | .receiveTimeout => d.receiveTimeout.isSome
  | .shutdownGrace => d.shutdownGrace.isSome
  | .exitCloseGrace => d.exitCloseGrace.isSome
  | .logs => d.logs.isSome
  | .noLogs => d.noLogs.isSome
  | .logContent => d.logContent.isSome
  | .logTimings => d.logTimings.isSome
  | .help | .version => false

def textOf (value : Bytes) : Except Refusal String :=
  match Utf8.decode? value with
  | some text => .ok text
  | none => .error .invalidEncoding

def pathOf (p : Parameter) (value : Bytes) : Except Refusal Bytes :=
  if value.isEmpty then .error (.valueRequired p) else .ok value

def maxParty : Int := 4294967295

def partyOf (value : Bytes) : Except Refusal Nat := do
  let text ← textOf value
  match Text.readSigned Text.leastInt64 Text.greatestInt64 text.toList with
  | .error fault => .error (.invalidValue text .party fault.message)
  | .ok n =>
    if 0 ≤ n ∧ n ≤ maxParty then .ok n.toNat
    else
      .error (.invalidValue text .party
        (Text.decimal n ++ " is not in 0..=" ++ Text.decimal maxParty))

def timeOf (p : Parameter) (value : Bytes) : Except Refusal Nat := do
  let text ← textOf value
  match Text.readUnsigned Text.greatestUInt64 text.toList with
  | .error fault => .error (.invalidValue text p fault.message)
  | .ok n => .ok n

def switchOf (p : Parameter) (value : Bytes) : Except Refusal Bool :=
  if value = Utf8.encode "true" then .ok true
  else if value = Utf8.encode "false" then .ok false
  else if value.isEmpty then .error (.valueRequired p)
  else .error (.noSuchValue (Utf8.decodeLossy value) p)

def assign (d : Draft) (p : Parameter) (value : Bytes) : Except Refusal Draft := do
  match p with
  | .party => return { d with party := some (← partyOf value) }
  | .program => return { d with program := some (← pathOf p value) }
  | .engine => return { d with engine := some (← textOf value) }
  | .engineArg => return { d with engineArgs := d.engineArgs ++ [← textOf value] }
  | .driverDir => return { d with driverDir := some (← pathOf p value) }
  | .driverCommand => return { d with driverCommand := some (← textOf value) }
  | .marker => return { d with marker := some (← textOf value) }
  | .receiveTimeout => return { d with receiveTimeout := some (← timeOf p value) }
  | .shutdownGrace => return { d with shutdownGrace := some (← timeOf p value) }
  | .exitCloseGrace => return { d with exitCloseGrace := some (← timeOf p value) }
  | .logs => return { d with logs := some (← switchOf p value) }
  | .noLogs => return { d with noLogs := some (← switchOf p value) }
  | .logContent => return { d with logContent := some (← switchOf p value) }
  | .logTimings => return { d with logTimings := some (← switchOf p value) }
  | .help => .error .help
  | .version => .error .version

/-- A parameter met on the command line with its value; only engine arguments may be repeated. -/
def give (d : Draft) (p : Parameter) (value : Bytes) : Except Refusal Draft :=
  if p ≠ .engineArg ∧ d.has p then .error (.repeated p) else d.assign p value

/-- The settings, once the positional parameters are there. -/
def complete (d : Draft) : Except Refusal Settings :=
  match d.party, d.program with
  | some party, some program =>
    .ok
      { party, program
        engine := d.engine.getD defaultEngine
        engineArgs := d.engineArgs
        driverDir := d.driverDir
        driverCommand := d.driverCommand
        marker := d.marker.getD defaultMarker
        receiveTimeout := d.receiveTimeout
        shutdownGrace := d.shutdownGrace
        exitCloseGrace := d.exitCloseGrace.getD defaultExitCloseGrace
        logs := d.logs.getD false
        noLogs := d.noLogs.getD false
        logContent := d.logContent.getD false
        logTimings := d.logTimings.getD false }
  | _, _ => .error .missingRequired

end Draft

end PartyBridge.Options
