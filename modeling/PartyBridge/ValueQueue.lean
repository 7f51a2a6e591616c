import PartyBridge.Engine.Exit
import PartyBridge.Text.Integer

/-!
# The handoff queue

Values of the engine wait in a queue until the driver takes them. Once closed, the queue refuses new
values, still hands out those it holds, and then tells why it was closed. The first close wins.
-/

namespace PartyBridge

inductive CloseReason where
  | outputClosed
  | engineExited (exit : Engine.Exit)
  | cancelled
deriving Repr, DecidableEq

def CloseReason.text : CloseReason → String
  | .outputClosed => "engine output closed"
  | .engineExited exit => "engine exited with " ++ exit.text
  | .cancelled => "session cancelled"

/-- Why no value was received. A timeout is in nanoseconds. -/
inductive ReceiveError where
  | closed (reason : CloseReason)
  | timedOut (nanos : Nat)
deriving Repr, DecidableEq

def ReceiveError.message : ReceiveError → String
  | .closed reason => "no more engine values: " ++ reason.text
  | .timedOut nanos =>
    "timed out after " ++ Text.durationText nanos ++ " waiting for an engine value"

/-- The values that wait, oldest first, and why the queue was closed, if it was. -/
structure ValueQueue where
  items : List Int64
  closed : Option CloseReason
deriving Repr, DecidableEq, Inhabited

namespace ValueQueue

def empty : ValueQueue :=
  ⟨[], none⟩

/-- Puts a value at the end, unless the queue is closed; tells whether it was taken. -/
def push (q : ValueQueue) (v : Int64) : ValueQueue × Bool :=
  match q.closed with
  | some _ => (q, false)
  | none => ({ q with items := q.items ++ [v] }, true)

/-- What a receiver gets without waiting: the oldest value, else the close reason, else nothing. -/
def take? (q : ValueQueue) : Option (Except ReceiveError Int64) × ValueQueue :=
  match q.items with
  | v :: rest => (some (.ok v), { q with items := rest })
  | [] => (q.closed.map fun reason => .error (.closed reason), q)

def ready (q : ValueQueue) : Bool :=
  !q.items.isEmpty || q.closed.isSome

/-- What a receiver gets that waited `nanos` in vain where it had to wait. -/
def popTimeout (q : ValueQueue) (nanos : Nat) : Except ReceiveError Int64 × ValueQueue :=
  match q.take? with
  | (some result, q) => (result, q)
  | (none, q) => (.error (.timedOut nanos), q)

def tryPop (q : ValueQueue) : Option Int64 × ValueQueue :=
  match q.items with
  | v :: rest => (some v, { q with items := rest })
  | [] => (none, q)

/-- Closes the queue for a reason, unless it is closed; tells whether this close was the first. -/
def close (q : ValueQueue) (reason : CloseReason) : ValueQueue × Bool :=
  match q.closed with
  | some _ => (q, false)
  | none => ({ q with closed := some reason }, true)

def size (q : ValueQueue) : Nat :=
  q.items.length

end ValueQueue

end PartyBridge
