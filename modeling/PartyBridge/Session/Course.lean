import PartyBridge.Bridge.Calls
import PartyBridge.EngineOutput.Drain
import PartyBridge.Failure
import PartyBridge.Journal.Trace

/-!
# The course of a session

A session with an engine runs drivers one after another, and then waits for the engine's output to end
before it reports. However a driver ends, the session is brought to its end. The course is the same at
any venue: something that has the engine and those who watch it, and keeps the log.
-/

namespace PartyBridge.Session

open Engine EngineOutput Journal

inductive State where
  | notStarted
  | engineRunning
  | drainerRunning
  | driverExecuting
  | driverDone
  | awaitingDrainerJoin
  | terminated
deriving Repr, DecidableEq, Inhabited

def State.name : State → String
  | .notStarted => "not_started"
  | .engineRunning => "engine_running"
  | .drainerRunning => "drainer_running"
  | .driverExecuting => "driver_executing"
  | .driverDone => "driver_done"
  | .awaitingDrainerJoin => "awaiting_drainer_join"
  | .terminated => "terminated"

structure Report where
  drain : DrainStats
  bridge : BridgeStats
  exit : Option Exit
  detached : Bool
  history : List State
deriving Repr, DecidableEq

def nanos (ms : Nat) : Nat :=
  ms * 1000000

/-- How an engine ended, in words; an engine of which that is not known has another text. -/
def exitText (unknown : String) (exit : Option Exit) : String :=
  exit.elim unknown Exit.text

def changed (old new : State) : TraceEvent :=
  ⟨.info, "session state", [("from", .str old.name), ("to", .str new.name)]⟩

/-- A session: its stage, its state and those before it, the latest first, when it started, how long its
output may stay open at the end in ms, and the trace, the latest event first. -/
structure Live (σ : Type) where
  stage : σ
  state : State
  history : List State
  startedAt : Nat
  shutdownGrace : Option Nat
  trace : List TraceEvent

structure Conducted (σ ρ : Type) where
  stage : σ
  trace : List TraceEvent
  told : Option ρ
  result : Except Failure Report

/-- What a session does at a venue: it writes notes, looks at the clock and at the counts of the bridge,
closes the engine's input, waits some nanoseconds for the drain, has the engine ended and the drain
stopped, leaves the drain to itself or waits for its counts, which may be lost for a reason, lets the
supervisor go, which tells how the engine ended, and waits for the diagnostics. -/
structure Venue (σ : Type) where
  log : Note → σ → σ
  clock : σ → Nat
  stats : σ → BridgeStats
  closeInput : σ → σ
  awaitDrain : Nat → σ → σ × Bool
  endEngine : σ → σ
  stopDrain : σ → σ
  leaveDrain : σ → σ
  joinDrain : σ → σ × Except String DrainStats
  dismiss : σ → σ × Option Exit
  joinLogger : σ → σ

def Live.emit {σ : Type} (l : Live σ) (e : TraceEvent) : Live σ :=
  { l with trace := e :: l.trace }

namespace Venue

variable {σ ρ : Type} (v : Venue σ)

def note (l : Live σ) (text : String) : Live σ :=
  { l with stage := v.log (event text) l.stage }

def enter (l : Live σ) (next : State) : Live σ :=
  let l := (v.note l ("Session state: " ++ l.state.name ++ " -> " ++ next.name)).emit (changed l.state next)
  { l with state := next, history := next :: l.history }

def started (stage : σ) (startedAt : Nat) (shutdownGrace : Option Nat) (began : TraceEvent) : Live σ :=
  let l : Live σ := ⟨stage, .notStarted, [.notStarted], startedAt, shutdownGrace, [began]⟩
  v.enter (v.enter l .engineRunning) .drainerRunning

/-- Runs a driver of a name on the session's stage. A driver may tell more than whether it failed. -/
def drive (l : Live σ) (name : String) (driver : σ → σ × ρ × Except Failure Unit) :
    Live σ × ρ × Except Failure Unit :=
  let l := v.enter l .driverExecuting
  match driver l.stage with
  | (stage, told, .ok ()) => (v.enter { l with stage } .driverDone, told, .ok ())
  | (stage, told, .error failure) =>
    let failure := failure.within ("driver " ++ name ++ " failed")
    let failed : TraceEvent :=
      ⟨.warn, "driver failed", [("driver", .str name), ("error", .str failure.text)]⟩
    let l := (v.note { l with stage } ("Driver failed: " ++ failure.text)).emit failed
    (v.enter l .driverDone, told, .error failure)

/-! ### The end -/

/-- How long a drain may take to finish once the engine has been told to end, in nanoseconds. -/
def stopWait : Nat := 2000000000

/-- Waits for the drain; gives whether it is stuck. -/
def settle (l : Live σ) : Live σ × Bool :=
  match l.shutdownGrace with
  | none => (l, false)
  | some grace =>
    match v.awaitDrain (nanos grace) l.stage with
    | (stage, true) => ({ l with stage }, false)
    | (stage, false) =>
      let l := v.note { l with stage } ("Engine output still open " ++ Text.decimalNat grace ++
        "ms after the driver finished; terminating engine")
      let (stage, finished) := v.awaitDrain stopWait (v.stopDrain (v.endEngine l.stage))
      ({ l with stage }, !finished)

/-- The counts of the drain. A drain that is stuck is left to itself. -/
def collect (l : Live σ) (stuck : Bool) : Live σ × Except String DrainStats :=
  if stuck then
    let l := (v.note l "Engine output still held open by another process; not waiting for it").emit
      ⟨.warn, "output drainer detached after shutdown grace", []⟩
    ({ l with stage := v.leaveDrain l.stage }, .ok .zero)
  else
    let (stage, drain) := v.joinDrain l.stage
    ({ l with stage }, drain)

/-- The end of a session whose engine is gone, and its report. The diagnostics are not waited for if the
drain is stuck. -/
def conclude (l : Live σ) (stuck : Bool) (drain : DrainStats) (exit : Option Exit) : Live σ × Report :=
  let l := v.enter { l with stage := if stuck then l.stage else v.joinLogger l.stage } .terminated
  let stats := v.stats l.stage
  let elapsed := (v.clock l.stage - l.startedAt) / 1000000
  let ending := exitText "unknown" exit
  let l := v.note l ("Session finished in " ++ Text.decimalNat elapsed ++ "ms: values=" ++
    Text.decimalNat drain.values ++ " received=" ++ Text.decimalNat stats.received ++ " sent=" ++
    Text.decimalNat stats.sent ++ " engine=" ++ ending)
  let l := l.emit ⟨.info, "session finished",
    [("elapsed_ms", .int elapsed), ("values", .int drain.values), ("malformed", .int drain.malformed),
      ("received", .int stats.received), ("sent", .int stats.sent), ("engine_exit", .str ending)]⟩
  (l, ⟨drain, stats, exit, stuck, l.history.reverse⟩)

/-- Takes the counts of the drain, brings the engine to its end, and reports. Without the counts there is
no report. -/
def release (l : Live σ) (stuck : Bool) : Live σ × Except String Report :=
  let (l, drain) := v.collect l stuck
  let (stage, exit) := v.dismiss l.stage
  match drain with
  | .error lost => ({ l with stage }, .error lost)
  | .ok drain =>
    let (l, report) := v.conclude { l with stage } stuck drain exit
    (l, .ok report)

/-- Closes the engine's input, waits for the drain and for the engine, and reports. -/
def finish (l : Live σ) : Live σ × Except String Report :=
  let l := v.enter { l with stage := v.closeInput l.stage } .awaitingDrainerJoin
  let (l, stuck) := v.settle l
  v.release l stuck

/-- The failure of a session that lost the counts of its drain. -/
def unfinished (lost : String) : Failure :=
  (Failure.ofOrigin (.other lost)).within "output drainer did not finish cleanly"

/-- A whole session with one driver. A failure of the driver is reported after the end of the session;
without an engine the driver does not run. -/
def conduct (stage : σ) (launched : Except LaunchError (Live σ)) (name : String)
    (driver : σ → σ × ρ × Except Failure Unit) : Conducted σ ρ :=
  match launched with
  | .error e => ⟨stage, [], none, .error (.ofOrigin (.launch e))⟩
  | .ok l =>
    let (l, told, outcome) := v.drive l name driver
    let (l, report) := v.finish l
    match outcome, report with
    | .ok (), report => ⟨l.stage, l.trace.reverse, some told, report.mapError unfinished⟩
    | .error failure, .ok _ => ⟨l.stage, l.trace.reverse, some told, .error failure⟩
    | .error failure, .error lost =>
      let l := v.note l ("Session shutdown also failed: " ++ (unfinished lost).text)
      ⟨l.stage, l.trace.reverse, some told, .error failure⟩

end Venue

end PartyBridge.Session
