import PartyBridge.Proofs.Session.Views

/-!
# What a session sees

A session and its driver learn something of their surroundings only by what they do there: whether a wait
was in vain, what the next line is, what came of a write. Who watches a session has a record of what it met,
and of what became of its view meanwhile. An account of such a record says by what happenings the view became
another, and from an account the session can be replayed without its surroundings.
-/

namespace PartyBridge.Session
open Engine EngineOutput Journal ByteStream

/-- What a session meets with: whether the drain finished in time, whether its driver could be started, and
under what number, what the driver wrote, what the write of a call failed with, whether nobody reads what is
written to the driver, and how the driver ended. -/
inductive Sight where
  | waited (finished : Bool)
  | unstarted (e : Driver.DriverError)
  | started (pid : Nat)
  | line (read : Option LineRead)
  | called (fault : Option WriteFault)
  | wrote (broken : Bool)
  | stopped (exit : Exit)
deriving Repr, DecidableEq

/-- A step of a record: the view became another while others were at work, or something was met. -/
inductive Seen where
  | worked (old new : View) (becomes : old.Becomes new)
  | met (sight : Sight)
deriving DecidableEq

/-! ### Watching -/

section
variable {σ τ : Type} {v : Venue σ} {r : Reception σ τ} {name : String}

namespace Outlook

variable (o : Outlook v r name)

def waited (limit : Nat) (s : σ) : List Seen :=
  [.worked _ _ (o.awaitDrain limit s), .met (.waited (v.awaitDrain limit s).2)]

def joined (s : σ) : List Seen :=
  [.worked _ _ (o.joinDrain s)]

def dismissed (s : σ) : List Seen :=
  [.worked _ _ (o.dismiss s)]

def loggerJoined (s : σ) : List Seen :=
  [.worked _ _ (o.joinLogger s)]

def failed {s t : σ} {e : Driver.DriverError} (start : r.start s = .error (e, t)) : List Seen :=
  [.worked _ _ (o.unstarted start), .met (.unstarted e)]

/-- Only time may have passed when a driver has been started. -/
def begun (s : σ) (t : τ) : List Seen :=
  [.worked _ _ (.one (o.view s) (.passed (o.view' t).clock)), .met (.started (o.pid t))]

def lined (t : τ) : List Seen :=
  [.worked _ _ (o.nextLine t), .met (.line (r.nextLine t).1)]

def readied (call : Call) (t : τ) : List Seen :=
  [.worked _ _ (o.ready call t)]

def called (call : Call) (t : τ) : List Seen :=
  [.met (.called (o.fault call t))]

def wrote (bytes : Bytes) (t : τ) : List Seen :=
  [.worked _ _ (o.write bytes t), .met (.wrote (r.write bytes t).2)]

def stopped (failed : Bool) (t : τ) : List Seen :=
  [.worked _ _ (o.stop failed t), .met (.stopped (r.stop failed t).2)]

/-- The venue with a record of what is seen there. -/
def venue : Venue (σ × List Seen) where
  log note s := (v.log note s.1, s.2)
  clock s := v.clock s.1
  stats s := v.stats s.1
  closeInput s := (v.closeInput s.1, s.2)
  awaitDrain limit s := (((v.awaitDrain limit s.1).1, s.2 ++ o.waited limit s.1), (v.awaitDrain limit s.1).2)
  endEngine s := (v.endEngine s.1, s.2)
  stopDrain s := (v.stopDrain s.1, s.2)
  leaveDrain s := (v.leaveDrain s.1, s.2)
  joinDrain s := (((v.joinDrain s.1).1, s.2 ++ o.joined s.1), (v.joinDrain s.1).2)
  dismiss s := (((v.dismiss s.1).1, s.2 ++ o.dismissed s.1), (v.dismiss s.1).2)
  joinLogger s := (v.joinLogger s.1, s.2 ++ o.loggerJoined s.1)

/-- The place with a record of what is seen there. -/
def reception : Reception (σ × List Seen) (τ × List Seen) where
  start s :=
    match start : r.start s.1 with
    | .error (e, t) => .error (e, t, s.2 ++ o.failed start)
    | .ok t => .ok (t, s.2 ++ o.begun s.1 t)
  nextLine t := ((r.nextLine t.1).1, (r.nextLine t.1).2, t.2 ++ o.lined t.1)
  ready call t := (r.ready call t.1, t.2 ++ o.readied call t.1)
  perform call t := ((r.perform call t.1).1, (r.perform call t.1).2, t.2 ++ o.called call t.1)
  note note t := (r.note note t.1, t.2)
  write bytes t := (((r.write bytes t.1).1, t.2 ++ o.wrote bytes t.1), (r.write bytes t.1).2)
  hangUp t := (r.hangUp t.1, t.2)
  stop failed t := (((r.stop failed t.1).1, t.2 ++ o.stopped failed t.1), (r.stop failed t.1).2)

end Outlook

end

/-! ### Replays -/

/-- A step of an account: what happened while others were at work, or what was met. -/
inductive Told where
  | worked (happenings : List Happening)
  | met (sight : Sight)

/-- A step of an account tells what was seen. -/
inductive Told.Tells : Told → Seen → Prop where
  | worked {old new : View} (becomes : old.Becomes new) {happenings : List Happening}
      (same : new = old.after happenings) : Tells (.worked happenings) (.worked old new becomes)
  | met (sight : Sight) : Tells (.met sight) (.met sight)

/-- The line that is met, the fault, the end of the driver; something else where that is not what is met. -/
def lineMet : Option Sight → Option LineRead
  | some (.line read) => read
  | _ => none

def faultMet : Option Sight → Option WriteFault
  | some (.called fault) => fault
  | _ => none

def exitMet : Option Sight → Exit
  | some (.stopped exit) => exit
  | _ => .ofCode 0

/-- A session that is replayed: its view, and what is left of the account. -/
structure Replay where
  view : View
  left : List Told

namespace Replay

variable (p : Replay)

def log : List String :=
  p.view.log

def work : Replay :=
  match p.left with
  | .worked happenings :: left => ⟨p.view.after happenings, left⟩
  | _ => p

/-- What is met next. -/
def sight? : Option Sight :=
  match p.left with
  | .met sight :: _ => some sight
  | _ => none

/-- The session after it has met that. -/
def pass : Replay :=
  match p.left with
  | .met _ :: left => ⟨p.view, left⟩
  | _ => p

def does (act : View → View) : Replay :=
  ⟨act p.view, p.left⟩

def venue : Venue Replay where
  log note p := p.does fun v => v.note note
  clock p := p.view.clock
  stats p := p.view.bridge.stats
  closeInput p := p.does View.closeInput
  awaitDrain _ p := (p.work.pass, p.work.sight? = some (.waited true))
  endEngine p := p
  stopDrain p := p.does View.stopDrain
  leaveDrain p := p.does View.leaveDrain
  joinDrain p := (p.work, p.work.view.counts)
  dismiss p := (p.work, p.work.view.exit)
  joinLogger := work

/-- A replay as a place where a driver of a name is run. -/
def reception (name : String) : Reception Replay Replay where
  start p :=
    match p.work.sight? with
    | some (.unstarted e) => .error (e, p.work.pass)
    | some (.started pid) => .ok (p.work.pass.does fun v => v.note (startedNote pid name))
    | _ => .ok p.work
  nextLine p := (lineMet p.work.sight?, p.work.pass)
  ready _ := work
  perform call p :=
    let (result, view) := p.view.call (faultMet p.sight?) call
    (result, ⟨view, p.pass.left⟩)
  note note p := p.does fun v => v.note note
  write _ p := (p.work.pass, p.work.sight? = some (.wrote true))
  hangUp p := p
  stop _ p := (p.work.pass, exitMet p.work.sight?)

theorem reception_perform (name : String) (call : Call) (view : View) (fault : Option WriteFault)
    (left : List Told) :
    (reception name).perform call ⟨view, .met (.called fault) :: left⟩ =
      ((view.call fault call).1, ⟨(view.call fault call).2, left⟩) := by
  have met : faultMet (sight? ⟨view, .met (.called fault) :: left⟩) = fault := rfl
  unfold reception
  dsimp only
  rw [met]
  rfl

end Replay

end PartyBridge.Session
