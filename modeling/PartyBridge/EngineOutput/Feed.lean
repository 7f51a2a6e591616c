import PartyBridge.EngineOutput.Drain

/-!
# A drain fed bit by bit

The output of a running engine arrives in pieces, and the drain may be told to stop in between. It
looks at the stop flag only before it starts to read a line: one more whole line is taken after a
stop.
-/

namespace PartyBridge.EngineOutput

open Journal ByteStream

/-- A drain that waits for more output: the piece of a line that it has, and whether it was told to
stop, has finished, or has nothing more to come. -/
structure Feed where
  drain : Drain
  pending : Bytes
  stopping : Bool
  ended : Bool
  finished : Bool
deriving Repr, DecidableEq, Inhabited

namespace Feed

def start (queue : ValueQueue) : Feed :=
  ⟨Drain.start queue, [], false, false, false⟩

def finish (f : Feed) (reason : CloseReason) : Feed :=
  { f with drain := f.drain.finish reason, finished := true }

def line (marker : List Char) (f : Feed) (bytes : Bytes) : Feed :=
  let f := { f with drain := f.drain.line marker bytes, pending := [] }
  if f.stopping then f.finish .cancelled else f

/-- One byte has arrived; none is read once the drain has finished. -/
def byte (marker : List Char) (f : Feed) (b : UInt8) : Feed :=
  if f.finished then f
  else if b = 10 then f.line marker (b :: f.pending).reverse
  else { f with pending := b :: f.pending }

def bytes (marker : List Char) (f : Feed) (bs : Bytes) : Feed × Bool :=
  if f.finished || f.ended then (f, false) else (bs.foldl (byte marker) f, true)

def eof (marker : List Char) (f : Feed) : Feed :=
  if f.finished then { f with ended := true }
  else
    let f := { f with ended := true }
    match f.pending with
    | [] => f.finish .outputClosed
    | pending =>
      let f := f.line marker pending.reverse
      if f.finished then f else f.finish .outputClosed

/-- The drain is told to stop and the queue is closed. -/
def shutdown (f : Feed) : Feed :=
  let f := { f with stopping := true }
  match f.drain.queue.close .cancelled with
  | (queue, true) =>
    let asked := event "Output drainer shutdown requested; handoff queue cancelled"
    { f with drain := { f.drain with queue, notes := asked :: f.drain.notes } }
  | (_, false) => f

def detach (f : Feed) : Feed :=
  let left := event "Output drainer detached while still reading"
  { f with drain := { f.drain with notes := left :: f.drain.notes } }

end Feed

end PartyBridge.EngineOutput
