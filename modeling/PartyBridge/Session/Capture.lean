import PartyBridge.Session.Lifecycle

/-!
# Engines on their own

An engine can be run without a session: to its end, with all that it writes, or under supervision
only.
-/

namespace PartyBridge.Session

open Host Engine

structure Capture where
  output : Bytes
  errors : Bytes
  exit : Exit
deriving Repr, DecidableEq

def capture (m : Machine) (home : Home) (command : Invocation) (input : Bytes) :
    Except LaunchError Capture :=
  (startEngine m home command).map fun (m, engine) =>
    let scene := ((Scene.quiet m .empty).tap engine.output).tap engine.errors
    let scene := (scene.send engine.input input).1.release (.writeEnd engine.input)
    let scene := scene.awaitUntil fun s =>
      s.tapEnded engine.output && s.tapEnded engine.errors && !s.machine.alive engine.pid
    ⟨scene.tapped engine.output, scene.tapped engine.errors,
      (scene.machine.exit? engine.pid).getD (.ofCode 0)⟩

inductive Ending where
  /-- Wait for it. -/
  | wait
  /-- Tell the supervisor to end it. -/
  | terminate
  /-- Let the supervisor go. -/
  | stop
deriving Repr, DecidableEq, Inhabited

structure Supervised where
  first : Bytes
  exit : Option Exit
  queue : ValueQueue
deriving Repr, DecidableEq

/-- The first line in some bytes, with its end. -/
def firstLine (bytes : Bytes) : Bytes :=
  (Service.cutLine bytes).elim bytes Prod.fst

/-- Runs an engine under supervision on a queue. Its pipes stay open; its output is read if its first
line is waited for. -/
def supervise (m : Machine) (home : Home) (command : Invocation) (queue : ValueQueue) (grace : Nat)
    (awaitsLine : Bool) (ending : Ending) : Except LaunchError Supervised :=
  (startEngine m home command).map fun (m, engine) =>
    let scene := Scene.quiet m queue
    let scene :=
      if awaitsLine then
        (scene.tap engine.output).awaitUntil fun s =>
          (s.tapped engine.output).contains 10 || s.tapEnded engine.output
      else scene
    let first := if awaitsLine then firstLine (scene.tapped engine.output) else []
    let told := ending == .terminate
    let watch : Watch := ⟨.start engine.pid grace, none, told, false⟩
    let scene : Scene := { scene with watch := some watch }
    let scene :=
      if ending == .wait then
        scene.awaitUntil Scene.unwatched
      else scene
    let (scene, exit) := scene.dismiss
    ⟨first, exit, scene.queue⟩

end PartyBridge.Session
