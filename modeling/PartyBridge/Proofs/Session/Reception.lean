import PartyBridge.Proofs.Session.Stage

/-!
# Where scripts are run

A script is run as a driver wherever somebody starts it, has its lines, makes its calls ready and writes
to it. What is said to the driver and noted of it is the same everywhere; `runDriver_eq` says that a stage
is such a place.
-/

namespace PartyBridge.Session
open Engine Journal ByteStream

/-- A place where a script is run. A driver is started on a stage, unless that fails, and stopped there
after it failed or not, which tells its exit. In between there is its next line, what is done before a call
can be made, the call itself, notes, what is written to the driver, which tells whether nobody reads it, and
the end of that. -/
structure Reception (σ τ : Type) where
  start : σ → Except (Driver.DriverError × σ) τ
  nextLine : τ → Option LineRead × τ
  ready : Call → τ → τ
  perform : Call → τ → Except BridgeError Driver.Reply × τ
  note : Note → τ → τ
  write : Bytes → τ → τ × Bool
  hangUp : τ → τ
  stop : Bool → τ → σ × Exit

namespace Reception

variable {σ τ : Type} (r : Reception σ τ)

def call (call : Call) (t : τ) : Except BridgeError Driver.Reply × τ :=
  r.perform call (r.ready call t)

def deliver (reply : Driver.Reply) (t : τ) : Except WriteFault Unit × τ :=
  let (t, broken) := r.write reply.line (r.note (content ("Driver reply: " ++ reply.text)) t)
  (if broken then .error .brokenPipe else .ok (), t)

def repliesLost (t : τ) : τ :=
  r.hangUp (r.note (event "Driver closed its input; no further replies possible") t)

def desk : Driver.Desk τ :=
  ⟨r.nextLine, r.call, r.deliver, r.repliesLost⟩

def run (v : Venue σ) (name : String) (s : σ) : σ × Except Driver.DriverError Unit :=
  match r.start s with
  | .error (e, s) => (s, .error e)
  | .ok t =>
    match Driver.serve r.desk Scene.patience true t with
    | (.error e, t) => ((r.stop true t).1, .error e)
    | (.ok (), t) =>
      let (s, exit) := r.stop false t
      if exit.success then (v.log (event "Driver finished") s, .ok ())
      else (s, .error (.exited name exit.statusText))

def driver (v : Venue σ) (name : String) (s : σ) : σ × Unit × Except Failure Unit :=
  let (s, result) := r.run v name s
  (s, (), result.mapError fun e => .ofOrigin (.driver e))

end Reception

/-- A stage as a place where a script is run. -/
def Stage.reception (script : Driver.Script) : Reception Stage Service where
  start st := (startDriver st script).mapError fun e => (e, st)
  nextLine := Service.nextLine Scene.patience
  ready call s := { s with stage := s.stage.ready call }
  perform call s :=
    let (bridge, result) := s.stage.called.perform call
    (result.getD (.error (.engineTerminated .cancelled)), { s with stage := s.stage.after bridge })
  note note s := s.withScene (s.stage.scene.log note)
  write bytes s :=
    let (scene, _, broken) := s.stage.scene.send s.input bytes
    (s.withScene scene, broken)
  hangUp s := s.withScene (s.stage.scene.release (.writeEnd s.input))
  stop failed s :=
    let scene := (s.close failed).awaitUntil fun scene => !scene.machine.alive s.pid
    let exit := (scene.machine.exit? s.pid).getD (.ofCode 0)
    ({ s.stage with scene := { scene with machine := scene.machine.reap s.pid } }, exit)

theorem reception_desk (script : Driver.Script) : (Stage.reception script).desk = Service.desk := by
  have calls : (Stage.reception script).call = Service.desk.call := by
    funext call s
    unfold Reception.call Stage.reception Service.desk
    dsimp only
    rw [perform_eq, callNow_eq]
  have delivers : (Stage.reception script).deliver = Service.deliver := by
    funext reply s
    unfold Reception.deliver Stage.reception Service.deliver
    dsimp only [Service.withScene]
  unfold Reception.desk
  rw [calls, delivers]
  rfl

/-- A stage runs scripts so. -/
theorem runDriver_eq (st : Stage) (script : Driver.Script) :
    runDriver st script = (Stage.reception script).run Stage.venue script.describe st := by
  have starts : (Stage.reception script).start st = (startDriver st script).mapError fun e => (e, st) :=
    rfl
  unfold runDriver Reception.run
  rw [reception_desk, starts]
  cases startDriver st script with
  | error e => rfl
  | ok service =>
    dsimp only [Except.mapError]
    generalize Driver.serve Service.desk Scene.patience true service = served
    obtain ⟨outcome, service'⟩ := served
    cases outcome <;> rfl

end PartyBridge.Session
