import PartyBridge.Engine.Invocation
import PartyBridge.Journal.Note
import PartyBridge.Text.Utf8
import PartyBridge.Text.Words

/-!
# Settings of a run

What one party's run is told on its command line and in its environment, and what follows from it.
-/

namespace PartyBridge.Options

def defaultEngine : String := "./Player.x"

/-- The word that tags the engine's value lines unless another one is given. -/
def defaultMarker : String := "VIADUCT_OUTPUT"

/-- The time in ms that the engine's output may stay open after the engine has ended. -/
def defaultExitCloseGrace : Nat := 1000

/-- The settings of a run. Paths are bytes, times are in ms. -/
structure Settings where
  party : Nat
  program : Bytes
  engine : String
  engineArgs : List String
  driverDir : Option Bytes
  driverCommand : Option String
  marker : String
  receiveTimeout : Option Nat
  shutdownGrace : Option Nat
  exitCloseGrace : Nat
  logs : Bool
  noLogs : Bool
  logContent : Bool
  logTimings : Bool
deriving Repr, DecidableEq, Inhabited

namespace Settings

def programText (s : Settings) : String :=
  Utf8.decodeLossy s.program

def invocation (s : Settings) : Engine.Invocation :=
  .forParty s.engine s.engineArgs s.party s.programText

/-- The directory of the drivers: the program itself, unless one is named. -/
def driverDirectory (s : Settings) : Bytes :=
  s.driverDir.getD s.program

def logging (s : Settings) : Bool :=
  (s.logs || s.logTimings) && !s.noLogs

def level (s : Settings) : Journal.Level :=
  .ofSwitches s.logging s.logContent

end Settings

inductive SettingsFault where
  | emptyEngine
  | emptyProgram
  | programEncoding
  | tooManyArgs (count : Nat)
  | argsTooLong
  | emptyMarker
  | longMarker
  | markerCharacters
  | driverCommand (fault : Text.CommandFault)
  | receiveTimeout (ms : Nat)
  | shutdownGrace (ms : Nat)
  | exitCloseGrace (ms : Nat)
deriving Repr, DecidableEq

def maxArgs : Nat := 64

def maxArgBytes : Nat := 8 * 1024

def maxMarkerBytes : Nat := 128

def maxReceiveTimeout : Nat := 24 * 60 * 60 * 1000

def maxGrace : Nat := 10 * 60 * 1000

def minExitCloseGrace : Nat := 50

def outOfRange (name : String) (low high ms : Nat) : String :=
  name ++ " must be between " ++ Text.decimalNat low ++ " and " ++ Text.decimalNat high ++ ", got " ++
    Text.decimalNat ms

def driverCommandText (fault : Text.CommandFault) : String :=
  "--driver-cmd is invalid: " ++ fault.message

def SettingsFault.message : SettingsFault → String
  | .emptyEngine => "--engine cannot be empty"
  | .emptyProgram => "PROGRAM cannot be empty"
  | .programEncoding => "PROGRAM must be valid UTF-8"
  | .tooManyArgs count =>
    "--engine-arg repeated too many times (max " ++ Text.decimalNat maxArgs ++ ", got " ++
      Text.decimalNat count ++ ")"
  | .argsTooLong =>
    "combined --engine-arg length exceeds " ++ Text.decimalNat maxArgBytes ++ " bytes"
  | .emptyMarker => "--marker must not be empty"
  | .longMarker => "--marker must be at most " ++ Text.decimalNat maxMarkerBytes ++ " bytes"
  | .markerCharacters => "--marker must not contain whitespace or control characters"
  | .driverCommand fault => driverCommandText fault
  | .receiveTimeout ms => outOfRange "--receive-timeout-ms" 1 maxReceiveTimeout ms
  | .shutdownGrace ms => outOfRange "--shutdown-grace-ms" 1 maxGrace ms
  | .exitCloseGrace ms => outOfRange "--exit-close-grace-ms" minExitCloseGrace maxGrace ms

namespace Settings

/-- The settings with blanks around the engine's name removed. -/
def normalized (s : Settings) : Settings :=
  { s with engine := String.ofList (Text.trim s.engine.toList) }

/-- Whether an optional number of ms is between 1 and a limit. -/
def within (limit : Nat) : Option Nat → Bool
  | none => true
  | some ms => 1 ≤ ms && ms ≤ limit

def driverCommandFault? (s : Settings) : Option Text.CommandFault :=
  match s.driverCommand with
  | none => none
  | some line =>
    match Text.splitCommand line with
    | .ok _ => none
    | .error fault => some fault

def totalBytes (args : List String) : Nat :=
  args.foldr (fun arg n => arg.utf8ByteSize + n) 0

def fault? (s : Settings) : Option SettingsFault :=
  if s.engine.isEmpty then some .emptyEngine
  else if s.program.isEmpty then some .emptyProgram
  else if (Utf8.decode? s.program).isNone then some .programEncoding
  else if maxArgs < s.engineArgs.length then some (.tooManyArgs s.engineArgs.length)
  else if maxArgBytes < totalBytes s.engineArgs then some .argsTooLong
  else if s.marker.isEmpty then some .emptyMarker
  else if maxMarkerBytes < s.marker.utf8ByteSize then some .longMarker
  else if s.marker.toList.any fun c => Text.isBlank c || Text.isControl c then
    some .markerCharacters
  else
    match s.driverCommandFault? with
    | some fault => some (.driverCommand fault)
    | none =>
      if !within maxReceiveTimeout s.receiveTimeout then
        some (.receiveTimeout (s.receiveTimeout.getD 0))
      else if !within maxGrace s.shutdownGrace then some (.shutdownGrace (s.shutdownGrace.getD 0))
      else if s.exitCloseGrace < minExitCloseGrace || maxGrace < s.exitCloseGrace then
        some (.exitCloseGrace s.exitCloseGrace)
      else none

def validate (s : Settings) : Except SettingsFault Settings :=
  match s.normalized.fault? with
  | some fault => .error fault
  | none => .ok s.normalized

def driverWords (s : Settings) : Except Text.CommandFault (Option (List String)) :=
  match s.driverCommand with
  | none => .ok none
  | some line => (Text.splitCommand line).map some

end Settings

end PartyBridge.Options
