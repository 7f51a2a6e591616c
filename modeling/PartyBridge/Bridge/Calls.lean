import PartyBridge.Bridge.Error
import PartyBridge.ByteStream.Sink
import PartyBridge.ByteStream.Source
import PartyBridge.Journal.Note
import PartyBridge.Text.Blank

/-!
# The four calls of a driver

A driver asks the operator for a line, sends a text to the engine, receives a value of the engine, and
shows a text to the operator. Each call is counted when it succeeds.
-/

namespace PartyBridge

open Journal ByteStream

structure BridgeStats where
  inputs : Nat
  sent : Nat
  received : Nat
  outputs : Nat
deriving Repr, DecidableEq, Inhabited

/-- What calls work on: the engine's input, the operator's answers and screen, and the queue of the engine's
values, on which a receive waits for so many nanoseconds. Notes are newest first. -/
structure Bridge where
  engine : Sink
  engineOpen : Bool
  queue : ValueQueue
  answers : List LineRead
  screen : Sink
  timeout : Option Nat
  stats : BridgeStats
  notes : List Note
deriving Repr, DecidableEq

namespace Bridge

def start (engine screen : Sink) (queue : ValueQueue) (answers : List LineRead)
    (timeout : Option Nat) : Bridge :=
  ⟨engine, true, queue, answers, screen, timeout, ⟨0, 0, 0, 0⟩, []⟩

def log (b : Bridge) (note : Note) : Bridge :=
  { b with notes := note :: b.notes }

def display (b : Bridge) (text : String) : Bridge × Except BridgeError Unit :=
  match b.screen.send (Utf8.encode text) with
  | (screen, .ok ()) => ({ b with screen }, .ok ())
  | (screen, .error fault) => ({ b with screen }, .error (.operator fault.message))

/-- What a line that the operator typed says, without its line end. -/
def answer (label : String) : List LineRead → Except BridgeError String × List LineRead
  | [] => (.error (.inputClosed label), [])
  | .fault message :: rest => (.error (.operator message), rest)
  | .line bytes :: rest =>
    match Utf8.decode? bytes with
    | none => (.error (.operator "stream did not contain valid UTF-8"), rest)
    | some text => (.ok (String.ofList (Text.chomp text.toList)), rest)

def input (b : Bridge) (label : String) : Bridge × Except BridgeError String :=
  match b.display ("input " ++ label ++ " : ") with
  | (b, .error e) => (b, .error e)
  | (b, .ok ()) =>
    match answer label b.answers with
    | (.error e, answers) => ({ b with answers }, .error e)
    | (.ok text, answers) =>
      let stats := { b.stats with inputs := b.stats.inputs + 1 }
      let typed := content ("Operator input for '" ++ label ++ "': " ++ text)
      ({ b with answers, stats }.log typed, .ok text)

/-- Sends a text to the engine as one line. -/
def send (b : Bridge) (text : String) : Bridge × Except BridgeError Unit :=
  if !b.engineOpen then (b, .error .engineInputClosed)
  else
    match b.engine.send (Utf8.encode (text ++ "\n")) with
    | (engine, .error fault) => ({ b with engine }, .error (.engineInput fault.message))
    | (engine, .ok ()) =>
      let stats := { b.stats with sent := b.stats.sent + 1 }
      ({ b with engine, stats }.log (content ("Sent to engine: " ++ text)), .ok ())

/-- Receives the engine's next value; nothing where it would wait for ever. A receive that gives up
after a time has waited that long in vain. -/
def receive (b : Bridge) : Bridge × Option (Except BridgeError Int64) :=
  let result : Option (Except ReceiveError Int64) × ValueQueue :=
    match b.timeout with
    | some nanos => let (result, queue) := b.queue.popTimeout nanos; (some result, queue)
    | none => b.queue.take?
  match result with
  | (none, queue) => ({ b with queue }, none)
  | (some (.error e), queue) => ({ b with queue }, some (.error (.ofReceive e)))
  | (some (.ok v), queue) =>
    let stats := { b.stats with received := b.stats.received + 1 }
    let note := content ("Received from engine: " ++ Text.decimal v.toInt)
    ({ b with queue, stats }.log note, some (.ok v))

def output (b : Bridge) (text : String) : Bridge × Except BridgeError Unit :=
  match b.display ("output: " ++ text ++ "\n") with
  | (b, .error e) => (b, .error e)
  | (b, .ok ()) => ({ b with stats := { b.stats with outputs := b.stats.outputs + 1 } }, .ok ())

def closeInput (b : Bridge) : Bridge :=
  if b.engineOpen then { b with engineOpen := false }.log (event "Engine stdin closed") else b

end Bridge

end PartyBridge
