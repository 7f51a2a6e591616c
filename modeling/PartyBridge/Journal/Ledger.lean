import PartyBridge.Journal.LogFile
import PartyBridge.Journal.Note
import PartyBridge.Text.Integer

/-!
# The debug log and the crash log

A ledger is the pair of log files with the level of logging. Every line starts with the time in
seconds. The crash log tells of a failure what it was only if content is logged.
-/

namespace PartyBridge.Journal

def logCap : Nat := 5 * 1024 * 1024

def crashCap : Nat := 256 * 1024

def version : String := "0.1.0"

def stamped (seconds : Nat) (text : String) : String :=
  "[" ++ Text.decimalNat seconds ++ "] " ++ text ++ "\n"

inductive CrashPayload where
  | said (words : String)
  | other
deriving Repr, DecidableEq

def CrashPayload.describe (level : Level) : CrashPayload → String
  | .said words =>
    if level = .everything then words else "panic payload omitted (log-content disabled)"
  | .other =>
    if level = .everything then "non-string panic payload"
    else "panic payload omitted (log-content disabled)"

structure Ledger where
  level : Level
  writer : Option LogWriter
  log : Place
  crash : Place
deriving Inhabited

namespace Ledger

def unset (log crash : Place) : Ledger :=
  ⟨.off, none, log, crash⟩

/-- Sets the level; the debug log is opened if anything is logged. -/
def configure (ledger : Ledger) (level : Level) : Ledger :=
  if level = .off then { ledger with level, writer := none }
  else
    match LogWriter.open logCap ledger.log with
    | some (writer, bytes) => { ledger with level, writer := some writer, log := .file bytes }
    | none => { ledger with level, writer := none }

def writeLine : Ledger → String → Ledger
  | ⟨level, some writer, .file bytes, crash⟩, line =>
    match writer.writeLine bytes line.toUTF8 with
    | (writer, bytes) => ⟨level, some writer, .file bytes, crash⟩
  | ledger, _ => ledger

/-- Writes a note, if the level admits it. -/
def note (ledger : Ledger) (seconds : Nat) (n : Note) : Ledger :=
  if ledger.level.admits n then ledger.writeLine (stamped seconds n.text) else ledger

def notes (ledger : Ledger) (seconds : Nat) (ns : List Note) : Ledger :=
  ns.foldl (fun ledger n => ledger.note seconds n) ledger

def crashLine (level : Level) (seconds : Nat) (location : String) (payload : CrashPayload) : String :=
  stamped seconds
    ("panic at " ++ location ++ ": " ++ payload.describe level ++ " (v" ++ version ++ ")")

/-- Writes a line on a crash to the crash log, unless nothing is logged. -/
def recordCrash (ledger : Ledger) (seconds : Nat) (location : String) (payload : CrashPayload) :
    Ledger :=
  if ledger.level = .off then ledger
  else
    match LogWriter.open crashCap ledger.crash with
    | none => ledger
    | some (writer, bytes) =>
      let line := crashLine ledger.level seconds location payload
      { ledger with crash := .file (writer.writeLine bytes line.toUTF8).2 }

end Ledger

end PartyBridge.Journal
