import PartyBridge.EngineOutput.Line
import PartyBridge.Journal.Note
import PartyBridge.ByteStream.Source
import PartyBridge.ValueQueue

/-!
# Draining the engine's output

The drain reads the engine's lines, pushes their values into the queue, and closes the queue when the
output ends, a read fails, or it is told to stop. `drain` is the whole run; the steps it consists of
are also taken one by one when the output arrives bit by bit.
-/

namespace PartyBridge.EngineOutput

open Journal ByteStream

structure DrainStats where
  lines : Nat
  values : Nat
  malformed : Nat
  untagged : Nat
  dropped : Nat
deriving Repr, DecidableEq, Inhabited

def DrainStats.zero : DrainStats :=
  ⟨0, 0, 0, 0, 0⟩

def DrainStats.text (s : DrainStats) : String :=
  "lines=" ++ Text.decimalNat s.lines ++ " values=" ++ Text.decimalNat s.values ++ " malformed=" ++
    Text.decimalNat s.malformed ++ " untagged=" ++ Text.decimalNat s.untagged ++ " dropped=" ++
    Text.decimalNat s.dropped

structure Drain where
  stats : DrainStats
  queue : ValueQueue
  notes : List Note
deriving Repr, DecidableEq, Inhabited

namespace Drain

def start (queue : ValueQueue) : Drain :=
  ⟨.zero, queue, []⟩

def valueText (v : Int64) : String :=
  Text.decimal v.toInt

def line (marker : List Char) (d : Drain) (bytes : Bytes) : Drain :=
  let text := lineText bytes
  let stats := { d.stats with lines := d.stats.lines + 1 }
  match classify marker text with
  | .value v =>
    match d.queue.push v with
    | (queue, true) =>
      ⟨{ stats with values := stats.values + 1 }, queue,
        content ("Engine value queued: " ++ valueText v) :: d.notes⟩
    | (queue, false) =>
      ⟨{ stats with dropped := stats.dropped + 1 }, queue,
        content ("Engine value dropped after close: " ++ valueText v) :: d.notes⟩
  | .malformed =>
    { d with
      stats := { stats with malformed := stats.malformed + 1 }
      notes := content ("Malformed engine line: " ++ String.ofList text) ::
        event "Skipping tagged engine line with a non-integer payload" :: d.notes }
  | .untagged => { d with stats := { stats with untagged := stats.untagged + 1 } }

def fault (d : Drain) (message : String) : Drain :=
  { d with notes := event ("Engine stdout read failed: " ++ message) :: d.notes }

/-- The end of the run: the queue is closed, unless it is closed already. -/
def finish (d : Drain) (reason : CloseReason) : Drain :=
  let finished := event ("Output drainer finished: " ++ d.stats.text)
  match d.queue.close reason with
  | (queue, true) =>
    ⟨d.stats, queue, finished :: event ("Handoff queue closed: " ++ reason.text) :: d.notes⟩
  | (queue, false) => ⟨d.stats, queue, finished :: d.notes⟩

/-- Takes the results of reading in order, up to the first failure. -/
def run (marker : List Char) (d : Drain) : List LineRead → Drain
  | [] => d.finish .outputClosed
  | .line bytes :: rest => (d.line marker bytes).run marker rest
  | .fault message :: _ => (d.fault message).finish .outputClosed

end Drain

def drain (marker : List Char) (capacity : Nat) (events : List Event) (queue : ValueQueue) : Drain :=
  (Drain.start queue).run marker (lineReads capacity events)

end PartyBridge.EngineOutput
