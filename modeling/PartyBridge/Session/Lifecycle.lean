import PartyBridge.Options.Settings
import PartyBridge.Session.Course
import PartyBridge.Session.Stage

/-!
# Sessions on a stage

A stage is a venue of sessions: whatever a session does there lets everybody else work while it waits. An
engine is started on the stage with those who watch it.
-/

namespace PartyBridge.Session

open Engine EngineOutput Journal

/-- What can be set for a session. Times are in ms. -/
structure Choices where
  marker : String
  receiveTimeout : Option Nat
  shutdownGrace : Option Nat
  exitCloseGrace : Nat
deriving Repr, DecidableEq, Inhabited

def Choices.ofSettings (s : Options.Settings) : Choices :=
  ⟨s.marker, s.receiveTimeout, s.shutdownGrace, s.exitCloseGrace⟩

namespace Scene

def drained (s : Scene) : Bool :=
  s.drainer.all fun d => d.feed.finished

def endEngine (s : Scene) : Scene :=
  { s with watch := s.watch.map fun w => { w with told := true } }

/-- Lets the drain work, if there is one. -/
def toDrain (s : Scene) (work : Feed → Feed) : Scene :=
  match s.drainer with
  | some d => s.withFeed d work
  | none => s

def drainStats (s : Scene) : DrainStats :=
  s.drainer.elim .zero fun d => d.feed.drain.stats

/-- Waits for the drain and gives its counts, which are lost if it never finishes. -/
def joinDrain (s : Scene) : Scene × Except String DrainStats :=
  let s := s.awaitUntil drained
  (s, if s.drained then .ok s.drainStats else .error "engine output never ends")

def unwatched (s : Scene) : Bool :=
  s.watch.all fun w => w.supervisor.result?.isSome

/-- Lets the supervisor go, which ends an engine that still runs, and waits for it. -/
def dismiss (s : Scene) : Scene × Option Exit :=
  let s : Scene := { s with watch := s.watch.map fun w => { w with released := true } }
  let s := s.awaitUntil unwatched
  (s, s.watch.bind fun w => w.supervisor.result?.bind id)

def joinLogger (s : Scene) : Scene :=
  s.awaitUntil fun s => s.logger.all Logger.finished

end Scene

namespace Stage

def withScene (st : Stage) (scene : Scene) : Stage :=
  { st with scene }

def onScene {α : Type} (st : Stage) (done : Scene × α) : Stage × α :=
  (st.withScene done.1, done.2)

def venue : Venue Stage where
  log note st := st.log note
  clock st := st.scene.machine.clock
  stats st := st.bridge.stats
  closeInput := closeInput
  awaitDrain limit st := st.onScene (st.scene.awaitFor (some limit) Scene.drained)
  endEngine st := st.withScene st.scene.endEngine
  stopDrain st := st.withScene (st.scene.toDrain Feed.shutdown)
  leaveDrain st := st.withScene (st.scene.toDrain Feed.detach)
  joinDrain st := st.onScene st.scene.joinDrain
  dismiss st := st.onScene st.scene.dismiss
  joinLogger st := st.withScene st.scene.joinLogger

end Stage

namespace Live

def launch (stage : Stage) (command : Invocation) (choices : Choices) :
    Except LaunchError (Live Stage) :=
  match startEngine stage.scene.machine stage.home command with
  | .error e => .error e
  | .ok (machine, engine) =>
    let launched := "Engine launched (pid " ++ Text.decimalNat engine.pid ++ "): " ++ command.text
    let scene :=
      { stage.scene.log (event launched) with
        machine
        drainer := some ⟨engine.output, choices.marker.toList, Feed.start stage.scene.queue⟩
        logger := some ⟨engine.errors, [], .start, false⟩
        watch := some ⟨.start engine.pid (nanos choices.exitCloseGrace), none, false, false⟩ }
    let bridge := { stage.bridge with timeout := choices.receiveTimeout.map nanos }
    let began : TraceEvent :=
      ⟨.info, "engine launched", [("pid", .int engine.pid), ("command", .str command.text)]⟩
    .ok (Stage.venue.started { stage with scene, bridge, inlet := some engine.input }
      stage.scene.machine.clock choices.shutdownGrace began)

def drive {ρ : Type} (l : Live Stage) (name : String) (driver : Stage → Stage × ρ × Except Failure Unit) :
    Live Stage × ρ × Except Failure Unit :=
  Stage.venue.drive l name driver

/-- Brings a session to its end. One whose drain never finishes reports as if it had left the drain to
itself. -/
def finish (l : Live Stage) : Live Stage × Report :=
  match Stage.venue.finish l with
  | (l, .ok report) => (l, report)
  | (l, .error _) => (l, ⟨.zero, l.stage.bridge.stats, none, true, l.history.reverse⟩)

end Live

def conduct {ρ : Type} (stage : Stage) (command : Invocation) (choices : Choices) (name : String)
    (driver : Stage → Stage × ρ × Except Failure Unit) : Conducted Stage ρ :=
  Stage.venue.conduct stage (Live.launch stage command choices) name driver

end PartyBridge.Session
