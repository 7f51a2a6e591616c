import PartyBridge.Engine.Supervision
import PartyBridge.EngineOutput.Diagnostics
import PartyBridge.EngineOutput.Feed
import PartyBridge.Host.Run

/-!
# A session's surroundings

While a driver runs, three others are at work: one drains the engine's output, one copies its
diagnostics, and one supervises the engine. A scene holds them with the machine on which the processes
run and the queue that they share. Everybody takes turns until what the driver waits for has come.
-/

namespace PartyBridge.Session

open Host Engine EngineOutput Journal

structure Drainer where
  pipe : Nat
  marker : List Char
  feed : Feed
deriving Inhabited

structure Logger where
  pipe : Nat
  pending : Bytes
  diagnostics : Diagnostics
  finished : Bool
deriving Inhabited

/-- A supervisor at work: until when it waits, whether it has been told to end the engine, and whether
the session has let go of it. -/
structure Watch where
  supervisor : Supervisor
  waitsUntil : Option Nat
  told : Bool
  released : Bool
deriving Inhabited

structure Tap where
  pipe : Nat
  bytes : Bytes
  ended : Bool
deriving Inhabited

/-- A machine, and who is at work beside the driver. Notes are newest first. -/
structure Scene where
  machine : Machine
  queue : ValueQueue
  drainer : Option Drainer
  logger : Option Logger
  watch : Option Watch
  taps : List Tap
  notes : List Note
deriving Inhabited

namespace Logger

def bytes (l : Logger) (bytes : Bytes) : Logger :=
  bytes.foldl
    (fun l b =>
      if b = 10 then
        { l with pending := [], diagnostics := l.diagnostics.line (b :: l.pending).reverse }
      else { l with pending := b :: l.pending })
    l

def eof (l : Logger) : Logger :=
  let diagnostics :=
    if l.pending.isEmpty then l.diagnostics else l.diagnostics.line l.pending.reverse
  { l with pending := [], diagnostics := diagnostics.finish, finished := true }

end Logger

namespace Scene

def quiet (machine : Machine) (queue : ValueQueue) : Scene :=
  ⟨machine, queue, none, none, none, [], []⟩

def log (s : Scene) (note : Note) : Scene :=
  { s with notes := note :: s.notes }

def logAll (s : Scene) (notes : List Note) : Scene :=
  { s with notes := notes ++ s.notes }

def release (s : Scene) (fd : Fd) : Scene :=
  { s with machine := { s.machine with held := s.machine.held.filter (· != fd) } }

def readSize : Nat := 65536

/-! ### Turns -/

/-- Gives the drain the queue, lets it work, and takes the queue and the notes back. -/
def withFeed (s : Scene) (d : Drainer) (work : Feed → Feed) : Scene :=
  let feed := work { d.feed with drain := { d.feed.drain with queue := s.queue } }
  let s := s.logAll feed.drain.notes
  { s with
    queue := feed.drain.queue
    drainer := some { d with feed := { feed with drain := { feed.drain with notes := [] } } } }

def drainTurn (s : Scene) : Scene × Bool :=
  match s.drainer with
  | none => (s, false)
  | some d =>
    if d.feed.finished then (s, false)
    else
      let close (s : Scene) : Scene :=
        if (s.drainer.any fun d => d.feed.finished) then s.release (.readEnd d.pipe) else s
      match s.machine.readFd (.readEnd d.pipe) readSize with
      | (machine, .data bytes) =>
        (close ({ s with machine }.withFeed d fun feed => (feed.bytes d.marker bytes).1), true)
      | (_, .wait) => (s, false)
      | (machine, _) => (close ({ s with machine }.withFeed d fun feed => feed.eof d.marker), true)

def withLogger (s : Scene) (l : Logger) : Scene :=
  { s.logAll l.diagnostics.notes with
    logger := some { l with diagnostics := { l.diagnostics with notes := [] } } }

def logTurn (s : Scene) : Scene × Bool :=
  match s.logger with
  | none => (s, false)
  | some l =>
    if l.finished then (s, false)
    else
      match s.machine.readFd (.readEnd l.pipe) readSize with
      | (machine, .data bytes) => ({ s with machine }.withLogger (l.bytes bytes), true)
      | (_, .wait) => (s, false)
      | (machine, _) => (({ s with machine }.withLogger l.eof).release (.readEnd l.pipe), true)

def tapTurn (s : Scene) (t : Tap) : Scene × Tap × Bool :=
  if t.ended then (s, t, false)
  else
    match s.machine.readFd (.readEnd t.pipe) readSize with
    | (machine, .data bytes) =>
      ({ s with machine }, { t with bytes := bytes.reverseAux t.bytes }, true)
    | (_, .wait) => (s, t, false)
    | (machine, _) => ({ s with machine }, { t with ended := true }, true)

def tapTurns (s : Scene) : Scene × Bool :=
  let (s, taps, moved) := s.taps.foldl
    (fun (s, taps, moved) t =>
      let (s, t, m) := tapTurn s t
      (s, t :: taps, moved || m))
    (s, [], false)
  ({ s with taps := taps.reverse }, moved)

/-- What a look at the engine shows; one that has ended is forgotten by the machine. -/
def pollEngine (s : Scene) (pid : Nat) : Scene × Poll :=
  match s.machine.exit? pid with
  | some exit => ({ s with machine := s.machine.reap pid }, .exited exit)
  | none => (s, .running)

/-- Waits until a moment; `told` is what is heard before it. -/
def waiting (s : Scene) (w : Watch) (nanos : Nat) (told : Option (Watch × Answer))
    (after : Answer) : Option (Scene × Watch × Answer) :=
  let w := { w with waitsUntil := some (w.waitsUntil.getD (s.machine.clock + nanos)) }
  match told with
  | some (w, answer) => some (s, { w with waitsUntil := none }, answer)
  | none =>
    if w.waitsUntil.any (· ≤ s.machine.clock) then some (s, { w with waitsUntil := none }, after)
    else none

/-- The answer to what the supervisor asks for; nothing if it has to wait. -/
def answerAsk (s : Scene) (w : Watch) : Ask → Option (Scene × Watch × Answer)
  | .poll =>
    let (s, poll) := s.pollEngine w.supervisor.pid
    some (s, w, .polled poll)
  | .listen nanos =>
    let told :=
      if w.told then some ({ w with told := false }, Answer.heard .terminate)
      else if w.released then some (w, .heard .disconnected)
      else none
    s.waiting w nanos told (.heard .nothing)
  | .rest nanos => s.waiting w nanos none .rested
  | .send signal =>
    let (machine, found) := s.machine.signalGroup w.supervisor.pid signal.number
    some ({ s with machine }, w, .sent (if found then none else some "No such process (os error 3)"))
  | .killAlone => some ({ s with machine := s.machine.signal w.supervisor.pid sigKill }, w, .sent none)
  | .clock => some (s, w, .time s.machine.clock)
  | .close exit =>
    let (queue, first) := s.queue.close (.engineExited exit)
    some ({ s with queue }, w, .closed first)

/-- The supervisor's turn: it goes on until it has to wait. The allowance bounds the number of its
steps in one turn. -/
def watchTurn : Nat → Bool → Scene → Scene × Bool
  | 0, moved, s => (s, moved)
  | fuel + 1, moved, s =>
    match s.watch with
    | none => (s, moved)
    | some w =>
      match w.supervisor.ask with
      | none => (s, moved)
      | some ask =>
        match s.answerAsk w ask with
        | some (s, w, answer) =>
          let supervisor := w.supervisor.answer answer
          let s := s.logAll supervisor.notes
          watchTurn fuel true
            { s with watch := some { w with supervisor := { supervisor with notes := [] } } }
        | none =>
          match ask with
          | .listen nanos | .rest nanos =>
            let waitsUntil := some (w.waitsUntil.getD (s.machine.clock + nanos))
            ({ s with watch := some { w with waitsUntil } }, moved)
          | _ => (s, moved)

def round (s : Scene) : Scene × Bool :=
  let (machine, ran) := s.machine.round
  let (s, drained) := { s with machine }.drainTurn
  let (s, logged) := s.logTurn
  let (s, tapped) := s.tapTurns
  let (s, watched) := watchTurn 20 false s
  (s, ran || drained || logged || tapped || watched)

def nextMoment? (s : Scene) (deadline : Option Nat) : Option Nat :=
  let waits := (s.watch.bind Watch.waitsUntil).toList ++ deadline.toList
  (s.machine.nextMoment?.toList ++ waits.filter (s.machine.clock < ·)).min?

/-- Lets everybody work until something has come or a deadline has passed; tells whether it has come.
Where nobody can ever go on, it has not come. The allowance bounds the number of rounds. -/
def await (ready : Scene → Bool) (deadline : Option Nat) : Nat → Scene → Scene × Bool
  | 0, s => (s, ready s)
  | fuel + 1, s =>
    if ready s then (s, true)
    else if deadline.any (· ≤ s.machine.clock) then (s, false)
    else
      let (after, moved) := s.round
      if moved then await ready deadline fuel after
      else
        match after.nextMoment? deadline with
        | some moment => await ready deadline fuel { after with machine := { after.machine with clock := moment } }
        | none => (after, false)

/-- How many rounds anybody waits. -/
def patience : Nat := 100000000

/-- Waits for something, with a time limit in nanoseconds or without one. -/
def awaitFor (s : Scene) (limit : Option Nat) (ready : Scene → Bool) : Scene × Bool :=
  await ready (limit.map (s.machine.clock + ·)) patience s

def awaitUntil (s : Scene) (ready : Scene → Bool) : Scene :=
  (s.awaitFor none ready).1

def tapped (s : Scene) (pipe : Nat) : Bytes :=
  ((s.taps.find? fun t => t.pipe == pipe).elim [] Tap.bytes).reverse

def tapEnded (s : Scene) (pipe : Nat) : Bool :=
  (s.taps.find? fun t => t.pipe == pipe).all Tap.ended

def tap (s : Scene) (pipe : Nat) : Scene :=
  { s with taps := s.taps ++ [⟨pipe, [], false⟩] }

/-! ### Writing into a process -/

/-- Writes bytes to a process, as fast as it reads them; tells how many arrived, and whether nobody is
left to read the rest. The allowance bounds the number of pieces. -/
def pour (pipe : Nat) : Nat → Nat → Bytes → Scene → Scene × Nat × Bool
  | 0, sent, _, s => (s, sent, false)
  | fuel + 1, sent, bytes, s =>
    if bytes.isEmpty then (s, sent, false)
    else
      match s.machine.writeFd (.writeEnd pipe) bytes with
      | (machine, .wrote n) => pour pipe fuel (sent + n) (bytes.drop n) { s with machine }
      | (_, .refused _) => (s, sent, true)
      | (_, .wait) =>
        let room (s : Scene) : Bool :=
          (s.machine.pipe pipe).size < Pipe.capacity || !s.machine.holds (.readEnd pipe)
        let s := s.awaitUntil room
        if room s then pour pipe fuel sent bytes s else (s, sent, false)

def send (s : Scene) (pipe : Nat) (bytes : Bytes) : Scene × Nat × Bool :=
  pour pipe (2 * bytes.length + 2) 0 bytes s

end Scene

end PartyBridge.Session
