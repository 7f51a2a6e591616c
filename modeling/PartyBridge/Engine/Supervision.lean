import PartyBridge.Engine.Exit
import PartyBridge.Journal.Note

/-!
# Supervision of an engine

A supervisor watches an engine until it has ended. It asks for what it needs to know or to have done,
and goes on with the answer: whether the engine has ended, whether it is told to end the engine, what
time it is. An engine that is to be ended is asked to, and is killed if it is still there some time
later. When the engine has ended by itself, its output gets some time to end before the queue of its
values is closed.
-/

namespace PartyBridge.Engine

open Journal

def pollInterval : Nat := 50000000

/-- The time between the request to end and the kill, in nanoseconds. -/
def killDelay : Nat := 500000000

/-- What the supervisor sends to an engine and all that the engine has started. -/
inductive EndSignal where
  | terminate
  | kill
deriving Repr, DecidableEq, Inhabited

def EndSignal.number : EndSignal → Nat
  | .terminate => 15
  | .kill => 9

inductive Poll where
  | running
  | exited (exit : Exit)
  | failed (message : String)
deriving Repr, DecidableEq, Inhabited

inductive Heard where
  | nothing
  | terminate
  | disconnected
deriving Repr, DecidableEq, Inhabited

inductive Ask where
  /-- Has the engine ended? -/
  | poll
  /-- Is there a word from the session within a time? -/
  | listen (nanos : Nat)
  /-- Send a signal to the engine's group. -/
  | send (signal : EndSignal)
  /-- Kill the engine alone. -/
  | killAlone
  /-- What time is it? -/
  | clock
  /-- Let some time pass. -/
  | rest (nanos : Nat)
  /-- Close the queue of the engine's values. -/
  | close (exit : Exit)
deriving Repr, DecidableEq, Inhabited

inductive Answer where
  | polled (poll : Poll)
  | heard (heard : Heard)
  /-- A signal was sent, or why not. -/
  | sent (fault : Option String)
  | time (nanos : Nat)
  | rested
  /-- Whether the queue had been open. -/
  | closed (first : Bool)
deriving Repr, DecidableEq, Inhabited

/-- Where a supervisor stands. The time is that of the request to end. -/
inductive Phase where
  | watching
  | listening
  | lingering (exit : Exit)
  | releasing (exit : Exit)
  | checking
  | terminating
  | stamping
  | reaping (since : Nat) (killed : Bool)
  | judging (since : Nat)
  | killing (since : Nat)
  | forcing (since : Nat)
  | resting (since : Nat) (killed : Bool)
  | closing (exit : Exit)
  | done (exit : Option Exit)
deriving Repr, DecidableEq, Inhabited

/-- A supervisor: the engine's number, how long its output may stay open after its end, where it
stands, and its notes, newest first. -/
structure Supervisor where
  pid : Nat
  grace : Nat
  phase : Phase
  notes : List Note
deriving Repr, DecidableEq, Inhabited

namespace Supervisor

def start (pid grace : Nat) : Supervisor :=
  ⟨pid, grace, .watching, []⟩

/-- What the supervisor asks for; nothing once it is done. -/
def ask (s : Supervisor) : Option Ask :=
  match s.phase with
  | .watching | .checking | .reaping _ _ => some .poll
  | .listening => some (.listen pollInterval)
  | .lingering _ => some (.listen s.grace)
  | .releasing exit | .closing exit => some (.close exit)
  | .terminating => some (.send .terminate)
  | .stamping | .judging _ => some .clock
  | .killing _ => some (.send .kill)
  | .forcing _ => some .killAlone
  | .resting _ _ => some (.rest pollInterval)
  | .done _ => none

def enter (s : Supervisor) (phase : Phase) : Supervisor :=
  { s with phase }

def log (s : Supervisor) (text : String) : Supervisor :=
  { s with notes := event text :: s.notes }

def tell (s : Supervisor) (text : String) : Supervisor :=
  s.log ("Engine (pid " ++ Text.decimalNat s.pid ++ ") " ++ text)

def tellFault (s : Supervisor) (signal : EndSignal) : Option String → Supervisor
  | none => s
  | some fault =>
    s.log ("Engine: failed to send signal " ++ Text.decimalNat signal.number ++ " to process group " ++
      Text.decimalNat s.pid ++ ": " ++ fault)

/-- The supervisor after an answer. An answer to another question changes nothing. -/
def answer (s : Supervisor) (a : Answer) : Supervisor :=
  match s.phase, a with
  | .watching, .polled .running => s.enter .listening
  | .watching, .polled (.exited exit) => (s.tell ("exited: " ++ exit.text)).enter (.lingering exit)
  | .watching, .polled (.failed message) => (s.tell ("wait failed: " ++ message)).enter (.done none)
  | .listening, .heard .nothing => s.enter .watching
  | .listening, .heard .terminate | .listening, .heard .disconnected => s.enter .checking
  | .lingering exit, .heard _ => s.enter (.releasing exit)
  | .releasing exit, .closed first =>
    let s := if first then s.log "Engine output still open after exit; closed handoff queue" else s
    s.enter (.done (some exit))
  | .checking, .polled (.exited exit) => s.enter (.closing exit)
  | .checking, .polled _ => (s.tell "still running; sending SIGTERM").enter .terminating
  | .terminating, .sent fault => (s.tellFault .terminate fault).enter .stamping
  | .stamping, .time now => s.enter (.reaping now false)
  | .reaping _ _, .polled (.exited exit) => (s.tell ("terminated: " ++ exit.text)).enter (.closing exit)
  | .reaping _ _, .polled (.failed message) => (s.tell ("wait failed: " ++ message)).enter (.done none)
  | .reaping since true, .polled .running => s.enter (.resting since true)
  | .reaping since false, .polled .running => s.enter (.judging since)
  | .judging since, .time now =>
    if since + killDelay ≤ now then
      (s.tell "ignored SIGTERM; escalating to SIGKILL").enter (.killing since)
    else s.enter (.resting since false)
  | .killing since, .sent none => s.enter (.resting since true)
  | .killing since, .sent fault => (s.tellFault .kill fault).enter (.forcing since)
  | .forcing since, .sent none => s.enter (.resting since true)
  | .forcing since, .sent (some fault) => (s.tell ("kill failed: " ++ fault)).enter (.resting since true)
  | .resting since killed, .rested => s.enter (.reaping since killed)
  | .closing exit, .closed _ => s.enter (.done (some exit))
  | _, _ => s

/-- How the engine ended, once the supervisor is done and knows it. -/
def result? (s : Supervisor) : Option (Option Exit) :=
  match s.phase with
  | .done exit => some exit
  | _ => none

end Supervisor

end PartyBridge.Engine
