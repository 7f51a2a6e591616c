import PartyBridge.Driver.Lookup
import PartyBridge.Driver.Serve
import PartyBridge.Engine.Invocation
import PartyBridge.Session.Scene

/-!
# Calls and drivers on a stage

A stage is a scene with the bridge that a driver calls. A call of the driver lets everybody else work
while it waits. Engines and drivers are started here, with pipes to the player.
-/

namespace PartyBridge.Session

open Host Engine Journal ByteStream

structure Home where
  cwd : Path
  environment : Environment
deriving Inhabited

def environmentOf (given : List (String × Bytes)) : Environment :=
  given.map fun (name, value) => (Shell.ofBytes (Utf8.encode name), Shell.ofBytes value)

/-- What is said of a text with a null character, which no program can be given. -/
def nullCharacter : String := "nul byte found in provided data"

def givable (bytes : Bytes) : Bool :=
  !bytes.contains 0

/-! ### Engines -/

structure EngineProcess where
  pid : Nat
  input : Nat
  output : Nat
  errors : Nat
deriving Repr, Inhabited

def startEngine (m : Machine) (home : Home) (command : Invocation) :
    Except LaunchError (Machine × EngineProcess) :=
  let program := Utf8.encode command.program
  let args := command.args.map Utf8.encode
  if !(program :: args).all givable then .error (.spawn command.text nullCharacter)
  else
    let (m, input) := m.newPipe
    let (m, output) := m.newPipe
    let (m, errors) := m.newPipe
    let fds := [(0, Fd.readEnd input), (1, Fd.writeEnd output), (2, Fd.writeEnd errors)]
    match m.spawn home.cwd home.environment program args fds true with
    | .error .noEntry => .error (.notFound command.program)
    | .error e => .error (.spawn command.text e.text)
    | .ok (m, pid) =>
      let held := [Fd.writeEnd input, Fd.readEnd output, Fd.readEnd errors]
      .ok ({ m with held := held ++ m.held }, ⟨pid, input, output, errors⟩)

/-! ### Calls -/

/-- A scene with a bridge. The inlet is the pipe to the engine's input, if the engine is a process; the
error output is the one that drivers share with the player. -/
structure Stage where
  scene : Scene
  bridge : Bridge
  inlet : Option Nat
  errorOutput : Option Nat
  home : Home

namespace Stage

def log (st : Stage) (note : Note) : Stage :=
  { st with scene := st.scene.log note }

def callNow (st : Stage) (call : Call) : Stage × Option (Except BridgeError Driver.Reply) :=
  let (bridge, result) := { st.bridge with queue := st.scene.queue }.perform call
  let scene := { st.scene.logAll bridge.notes with queue := bridge.queue }
  ({ st with scene, bridge := { bridge with notes := [] } }, result)

/-- What a write to a process fails with once nobody reads it. -/
def unread : WriteFault :=
  .other Errno.brokenPipe.text

/-- Pours what a call sends into the engine; what does not arrive is what the bridge cannot store. -/
def pourInto (st : Stage) (pipe : Nat) (text : String) : Stage :=
  let (scene, sent, broken) := st.scene.send pipe (Utf8.encode (text ++ "\n"))
  let engine := { Sink.unlimited with room := if broken then some sent else none, whenFull := unread }
  { st with scene, bridge := { st.bridge with engine } }

def receivable (s : Scene) : Bool :=
  !s.queue.items.isEmpty || s.queue.closed.isSome

/-- Makes a call, waiting as long as it takes. A receive that would wait for ever, since nobody is left who
could send or close, has no result to give; it is answered as if the session had been cancelled. -/
def perform (st : Stage) (call : Call) : Except BridgeError Driver.Reply × Stage :=
  let st := match call, st.inlet with
    | .send text, some pipe => if st.bridge.engineOpen then st.pourInto pipe text else st
    | .receive, _ => { st with scene := (st.scene.awaitFor st.bridge.timeout receivable).1 }
    | _, _ => st
  match st.callNow call with
  | (st, some result) => (result, st)
  | (st, none) => (.error (.engineTerminated .cancelled), st)

def closeInput (st : Stage) : Stage :=
  let bridge := st.bridge.closeInput
  let scene := st.scene.logAll bridge.notes
  let scene := match st.inlet with
    | some pipe => scene.release (.writeEnd pipe)
    | none => scene
  { st with scene, bridge := { bridge with notes := [] } }

end Stage

/-! ### Drivers -/

structure Service where
  stage : Stage
  pid : Nat
  input : Nat
  output : Nat
  unused : Bytes

namespace Service

def withScene (s : Service) (scene : Scene) : Service :=
  { s with stage := { s.stage with scene } }

def bufferSize : Nat := 8192

/-- The line at the start of some bytes, and the rest; nothing if there is no whole line. -/
def cutLine (bytes : Bytes) : Option (Bytes × Bytes) :=
  let line := bytes.takeWhile (· != 10)
  match bytes.drop line.length with
  | newline :: rest => some (line ++ [newline], rest)
  | [] => none

/-- The driver's next line; nothing at the end of its output. The allowance bounds the number of
reads. -/
def nextLine : Nat → Service → Option LineRead × Service
  | 0, s => (none, s)
  | fuel + 1, s =>
    match cutLine s.unused with
    | some (line, rest) => (some (.line line), { s with unused := rest })
    | none =>
      let readable (scene : Scene) : Bool :=
        (scene.machine.pipe s.output).size != 0 || !scene.machine.holds (.writeEnd s.output)
      let scene := s.stage.scene.awaitUntil readable
      match scene.machine.readFd (.readEnd s.output) bufferSize with
      | (machine, .data bytes) =>
        nextLine fuel { s.withScene { scene with machine } with unused := s.unused ++ bytes }
      | _ =>
        let s := s.withScene scene
        if s.unused.isEmpty then (none, s) else (some (.line s.unused), { s with unused := [] })

def deliver (reply : Driver.Reply) (s : Service) : Except WriteFault Unit × Service :=
  let scene := s.stage.scene.log (content ("Driver reply: " ++ reply.text))
  let (scene, _, broken) := scene.send s.input reply.line
  (if broken then .error .brokenPipe else .ok (), s.withScene scene)

def repliesLost (s : Service) : Service :=
  let scene := s.stage.scene.log (event "Driver closed its input; no further replies possible")
  s.withScene (scene.release (.writeEnd s.input))

def desk : Driver.Desk Service :=
  ⟨nextLine Scene.patience,
    fun call s =>
      let (result, stage) := s.stage.perform call
      (result, { s with stage }),
    deliver, repliesLost⟩

/-- Lets go of the driver's pipes, and kills it if it failed. -/
def close (s : Service) (failed : Bool) : Scene :=
  let scene := s.stage.scene
  let scene := if failed then { scene with machine := scene.machine.signal s.pid sigKill } else scene
  (scene.release (.writeEnd s.input)).release (.readEnd s.output)

end Service

def loadedNote (script : Driver.Script) : Note :=
  event ("Driver for party " ++ Text.decimalNat script.party ++ ": " ++ script.describe)

/-- Starts a driver; its error output is the player's. -/
def startDriver (st : Stage) (script : Driver.Script) : Except Driver.DriverError Service :=
  let (program, args) := script.commandLine
  let failed (text : String) : Except Driver.DriverError Service := .error (.spawn script.describe text)
  let own := script.environment.map fun (name, value) => (name, Utf8.encode value)
  if !(program :: args).all givable then failed nullCharacter
  else
    let given := environmentOf own
    let kept := st.home.environment.filter fun (name, _) => (given.lookup name).isNone
    let (m, input) := st.scene.machine.newPipe
    let (m, output) := m.newPipe
    let errors := st.errorOutput.toList.map fun pipe => (2, Fd.writeEnd pipe)
    let fds := (0, Fd.readEnd input) :: (1, Fd.writeEnd output) :: errors
    match m.spawn st.home.cwd (kept ++ given) program args fds false with
    | .error e => failed e.text
    | .ok (m, pid) =>
      let machine := { m with held := .writeEnd input :: .readEnd output :: m.held }
      let started := event ("Driver started (pid " ++ Text.decimalNat pid ++ "): " ++ script.describe)
      let scene := { st.scene with machine }.log started
      .ok ⟨{ st with scene }, pid, input, output, []⟩

/-- Runs a driver to its end. A driver that fails to keep to the rules is killed, but nothing that it
has started. -/
def runDriver (st : Stage) (script : Driver.Script) : Stage × Except Driver.DriverError Unit :=
  match startDriver st script with
  | .error e => (st, .error e)
  | .ok service =>
    let (served, service) := Driver.serve Service.desk Scene.patience true service
    let failed := match served with
      | .ok () => false
      | .error _ => true
    let scene := (service.close failed).awaitUntil fun s => !s.machine.alive service.pid
    let exit := (scene.machine.exit? service.pid).getD (.ofCode 0)
    let scene := { scene with machine := scene.machine.reap service.pid }
    let st := { service.stage with scene }
    match served with
    | .error e => (st, .error e)
    | .ok () =>
      if exit.success then (st.log (event "Driver finished"), .ok ())
      else (st, .error (.exited script.describe exit.statusText))

end PartyBridge.Session
