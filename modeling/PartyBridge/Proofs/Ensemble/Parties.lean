import Mathlib.Data.Fintype.Sum
import PartyBridge.Driver.Serve
import PartyBridge.Engine.Supervision
import PartyBridge.EngineOutput.Drain
import PartyBridge.Proofs.Handoff.Callers
import PartyBridge.Proofs.Run

/-!
# The parties of a session

Four parties share a session's queue, and each takes its steps in any order with the others: the drain
of the engine's output, the supervisor of the engine, whoever shuts the drain down, and the driver. The
drain looks at the stop flag, reads a line, deals with it, and closes the queue at its end; shutting it
down raises the flag and then closes the queue. There may be guests, who call the queue as they like.
Every run of the parties is a run of the queue's callers (`run_handoff`).
-/

namespace PartyBridge.Ensemble
open ByteStream EngineOutput Engine

inductive Role where
  | drainer
  | supervisor
  | stopper
  | driver
deriving DecidableEq, Repr

instance : Fintype Role :=
  ⟨{.drainer, .supervisor, .stopper, .driver}, fun role => by cases role <;> decide⟩

/-- A caller of the queue: one who takes part, or a guest. -/
abbrev Party (κ : Type) :=
  Role ⊕ κ

/-- Where the drain stands: about to look at the stop flag, reading, with a line that it has not yet
dealt with, out of its loop, or at its end. -/
inductive Place where
  | checking
  | reading
  | holding (bytes : Bytes)
  | leaving (reason : CloseReason)
  | finished
deriving Repr, DecidableEq

/-- Everybody in a session: the callers of the queue, the stop flag, the lines yet to be read and those
dealt with, the drain, the supervisor, whether the flag has been raised and the queue is to be closed,
the driver's bridge, and what the driver has received. -/
structure State (κ : Type) where
  handoff : Handoff.State (Party κ)
  stop : Bool
  reads : List LineRead
  settled : List Bytes
  place : Place
  drain : Drain
  supervisor : Supervisor
  cancelling : Bool
  bridge : Bridge
  got : List (Except BridgeError Int64)

variable {κ : Type}

def start (reads : List LineRead) (pid grace : Nat) (bridge : Bridge) : State κ :=
  ⟨Handoff.start, false, reads, [], .checking, .start .empty, .start pid grace, false, bridge, []⟩

namespace State

/-- The drain at work on the queue as it is now. -/
def draining (s : State κ) : Drain :=
  { s.drain with queue := s.handoff.queue }

def settle (s : State κ) (marker : List Char) (bytes : Bytes) : State κ :=
  { s with
    settled := s.settled ++ [bytes]
    place := .checking
    drain := s.draining.line marker bytes }

def receiving (s : State κ) : Bridge × Option (Except BridgeError Int64) :=
  { s.bridge with queue := s.handoff.queue }.receive

/-- The line that the drain has read and not yet dealt with. -/
def held (s : State κ) : List LineRead :=
  match s.place with
  | .holding bytes => [.line bytes]
  | _ => []

end State

variable [DecidableEq κ]

/-- A step of one of the parties. The drain looks at the stop flag only between two lines. What a caller
does with no event, such as to wait or to tell others, is a step of the queue alone. -/
inductive Step (marker : List Char) :
    State κ → Option (Handoff.Event (Party κ)) → State κ → Prop where
  | check {s : State κ} (place : s.place = .checking)
      (free : s.handoff.phase (.inl .drainer) = .away) :
      Step marker s none { s with place := if s.stop then .leaving .cancelled else .reading }
  | read {s : State κ} {bytes : Bytes} {rest : List LineRead} (place : s.place = .reading)
      (next : s.reads = .line bytes :: rest) :
      Step marker s none { s with place := .holding bytes, reads := rest }
  | fault {s : State κ} {message : String} {rest : List LineRead} (place : s.place = .reading)
      (next : s.reads = .fault message :: rest) :
      Step marker s none { s with place := .leaving .outputClosed, drain := s.drain.fault message }
  | ended {s : State κ} (place : s.place = .reading) (next : s.reads = []) :
      Step marker s none { s with place := .leaving .outputClosed }
  | offer {s : State κ} {bytes : Bytes} {v : Int64} {taken : Bool} {handoff : Handoff.State (Party κ)}
      (place : s.place = .holding bytes) (kind : classify marker (lineText bytes) = .value v)
      (step : Handoff.Step s.handoff (some (.pushed (.inl .drainer) v taken)) handoff) :
      Step marker s (some (.pushed (.inl .drainer) v taken)) { s.settle marker bytes with handoff }
  | skip {s : State κ} {bytes : Bytes} (place : s.place = .holding bytes)
      (kind : ∀ v, classify marker (lineText bytes) ≠ .value v) :
      Step marker s none (s.settle marker bytes)
  | leave {s : State κ} {reason : CloseReason} {first : Bool} {handoff : Handoff.State (Party κ)}
      (place : s.place = .leaving reason)
      (step : Handoff.Step s.handoff (some (.closed (.inl .drainer) reason first)) handoff) :
      Step marker s (some (.closed (.inl .drainer) reason first))
        { s with handoff, place := .finished, drain := s.draining.finish reason }
  | hear {s : State κ} (answer : Answer) (free : s.handoff.phase (.inl .supervisor) = .away)
      (other : ∀ exit, s.supervisor.ask ≠ some (.close exit)) :
      Step marker s none { s with supervisor := s.supervisor.answer answer }
  | release {s : State κ} {exit : Exit} {first : Bool} {handoff : Handoff.State (Party κ)}
      (ask : s.supervisor.ask = some (.close exit))
      (step : Handoff.Step s.handoff
        (some (.closed (.inl .supervisor) (.engineExited exit) first)) handoff) :
      Step marker s (some (.closed (.inl .supervisor) (.engineExited exit) first))
        { s with handoff, supervisor := s.supervisor.answer (.closed first) }
  | raise {s : State κ} (idle : s.cancelling = false)
      (free : s.handoff.phase (.inl .stopper) = .away) :
      Step marker s none { s with stop := true, cancelling := true }
  | cancel {s : State κ} {first : Bool} {handoff : Handoff.State (Party κ)}
      (due : s.cancelling = true)
      (step : Handoff.Step s.handoff (some (.closed (.inl .stopper) .cancelled first)) handoff) :
      Step marker s (some (.closed (.inl .stopper) .cancelled first))
        { s with handoff, cancelling := false }
  | call {s : State κ} {handoff : Handoff.State (Party κ)}
      (step : Handoff.Step s.handoff
        (some (.called (.inl .driver) (.starting s.bridge.timeout s.handoff.clock))) handoff) :
      Step marker s (some (.called (.inl .driver) (.starting s.bridge.timeout s.handoff.clock)))
        { s with handoff }
  | receive {s : State κ} {wait : Handoff.Wait} {now : Nat} {result : Except ReceiveError Int64}
      {handoff : Handoff.State (Party κ)}
      (step : Handoff.Step s.handoff (some (.received (.inl .driver) wait now result)) handoff) :
      Step marker s (some (.received (.inl .driver) wait now result))
        { s with handoff, bridge := s.receiving.1, got := s.got ++ s.receiving.2.toList }
  | perform {s : State κ} (call : Call) (other : call ≠ .receive)
      (free : s.handoff.phase (.inl .driver) = .away) :
      Step marker s none { s with bridge := (s.bridge.perform call).1 }
  | guest {s : State κ} {k : κ} {e : Handoff.Event (Party κ)} {handoff : Handoff.State (Party κ)}
      (own : e.caller = .inr k) (step : Handoff.Step s.handoff (some e) handoff) :
      Step marker s (some e) { s with handoff }
  | quiet {s : State κ} {handoff : Handoff.State (Party κ)}
      (step : Handoff.Step s.handoff none handoff) : Step marker s none { s with handoff }

theorem step_handoff {marker : List Char} {s s' : State κ} {e : Option (Handoff.Event (Party κ))}
    (step : Step marker s e s') :
    Handoff.Step s.handoff e s'.handoff ∨ (e = none ∧ s'.handoff = s.handoff) := by
  cases step with
  | offer place kind step | leave place step | release ask step | cancel due step | call step
  | receive step | guest own step | quiet step => exact .inl step
  | _ => exact .inr ⟨rfl, rfl⟩

/-- What the parties do to the queue is what its callers may do. -/
theorem run_handoff {marker : List Char} {s s' : State κ} {h : List (Handoff.Event (Party κ))}
    (run : Run (Step marker) s h s') : Run Handoff.Step s.handoff h s'.handoff := by
  induction run with
  | refl => exact .refl
  | tail _ step ih =>
    rcases step_handoff step with moved | ⟨rfl, same⟩
    · exact ih.tail moved
    · rw [same]
      simpa using ih

end PartyBridge.Ensemble
