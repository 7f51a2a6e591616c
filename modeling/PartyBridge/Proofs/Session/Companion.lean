import PartyBridge.Proofs.Session.Replay

/-!
# Companions of a session

A companion goes on in other surroundings as a session does, as long as it sees the same there. One who
watches a session is a companion, and its replay is another. So a replay of an account of what was seen ends
as the session did and leaves the same log (`conduct_replayed`).
-/

namespace PartyBridge.Session
open Engine EngineOutput Journal ByteStream

section
variable {σ τ : Type}

def Live.on (l : Live σ) (s : τ) : Live τ :=
  ⟨s, l.state, l.history, l.startedAt, l.shutdownGrace, l.trace⟩

def Conducted.on {ρ : Type} (c : Conducted σ ρ) (s : τ) : Conducted τ ρ :=
  ⟨s, c.trace, c.told, c.result⟩

/-- A session in other surroundings that goes on as one does, as long as it sees the same. An index says
how far it is with what there is to see; what is seen moves it. -/
structure Companion {v : Venue σ} {r : Reception σ τ} {name : String} (o : Outlook v r name)
    (ι W W' : Type) where
  venue : Venue W
  reception : Reception W W'
  stage : σ → ι → W
  driver : τ → ι → W'
  Moves : List Seen → ι → ι → Prop
  still : ∀ {k k'}, Moves [] k k' → k = k'
  split : ∀ {first second k k'}, Moves (first ++ second) k k' → ∃ m, Moves first k m ∧ Moves second m k'
  log_note : ∀ note s k, venue.log note (stage s k) = stage (v.log note s) k
  clock : ∀ s k, venue.clock (stage s k) = v.clock s
  stats : ∀ s k, venue.stats (stage s k) = v.stats s
  closeInput : ∀ s k, venue.closeInput (stage s k) = stage (v.closeInput s) k
  awaitDrain : ∀ {limit s k k'}, Moves (o.waited limit s) k k' →
    venue.awaitDrain limit (stage s k) = (stage (v.awaitDrain limit s).1 k', (v.awaitDrain limit s).2)
  endEngine : ∀ s k, venue.endEngine (stage s k) = stage (v.endEngine s) k
  stopDrain : ∀ s k, venue.stopDrain (stage s k) = stage (v.stopDrain s) k
  leaveDrain : ∀ s k, venue.leaveDrain (stage s k) = stage (v.leaveDrain s) k
  joinDrain : ∀ {s k k'}, Moves (o.joined s) k k' →
    venue.joinDrain (stage s k) = (stage (v.joinDrain s).1 k', (v.joinDrain s).2)
  dismiss : ∀ {s k k'}, Moves (o.dismissed s) k k' →
    venue.dismiss (stage s k) = (stage (v.dismiss s).1 k', (v.dismiss s).2)
  joinLogger : ∀ {s k k'}, Moves (o.loggerJoined s) k k' →
    venue.joinLogger (stage s k) = stage (v.joinLogger s) k'
  start : ∀ {s t k k'}, r.start s = .ok t → Moves (o.begun s t) k k' →
    reception.start (stage s k) = .ok (driver t k')
  unstarted : ∀ {s e t k k'} (start : r.start s = .error (e, t)), Moves (o.failed start) k k' →
    reception.start (stage s k) = .error (e, stage t k')
  nextLine : ∀ {t k k'}, Moves (o.lined t) k k' →
    reception.nextLine (driver t k) = ((r.nextLine t).1, driver (r.nextLine t).2 k')
  ready : ∀ {call t k k'}, Moves (o.readied call t) k k' →
    reception.ready call (driver t k) = driver (r.ready call t) k'
  perform : ∀ {call t k k'}, Moves (o.called call t) k k' →
    reception.perform call (driver t k) = ((r.perform call t).1, driver (r.perform call t).2 k')
  note : ∀ note t k, reception.note note (driver t k) = driver (r.note note t) k
  write : ∀ {bytes t k k'}, Moves (o.wrote bytes t) k k' →
    reception.write bytes (driver t k) = (driver (r.write bytes t).1 k', (r.write bytes t).2)
  hangUp : ∀ t k, reception.hangUp (driver t k) = driver (r.hangUp t) k
  stop : ∀ {failed t k k'}, Moves (o.stopped failed t) k k' →
    reception.stop failed (driver t k) = (stage (r.stop failed t).1 k', (r.stop failed t).2)

end

section
variable {σ τ : Type} {v : Venue σ} {r : Reception σ τ} {name : String}

namespace Companion
variable {o : Outlook v r name} {ι W W' : Type} (C : Companion o ι W W')

def live (l : Live σ) (k : ι) : Live W :=
  l.on (C.stage l.stage k)

theorem note_live (l : Live σ) (text : String) (k : ι) :
    C.venue.note (C.live l k) text = C.live (v.note l text) k := by
  simp only [Venue.note, live, Live.on, C.log_note]

theorem enter_live (l : Live σ) (next : State) (k : ι) :
    C.venue.enter (C.live l k) next = C.live (v.enter l next) k := by
  simp only [Venue.enter, Venue.note, Live.emit, live, Live.on, C.log_note]

theorem restage (l : Live σ) (s : σ) (k k' : ι) :
    { C.live l k with stage := C.stage s k' } = C.live { l with stage := s } k' :=
  rfl

end Companion

variable (o : Outlook v r name)

/-! ### The end of a session -/

/-- A session does something, and so do its companions as long as they see the same. -/
def Accompanied {α : Type} (does : ∀ {W W' : Type}, Venue W → Reception W W' → Live W → Live W × α)
    (l : Live σ) : Prop :=
  ∃ seen, ∀ {ι W W' : Type} (C : Companion o ι W W') {k k' : ι}, C.Moves seen k k' →
    does C.venue C.reception (C.live l k) = (C.live (does v r l).1 k', (does v r l).2)

theorem settle_accompanied (l : Live σ) : Accompanied o (fun w _ => w.settle) l := by
  obtain ⟨s, state, history, startedAt, grace, trace⟩ := l
  cases grace with
  | none =>
    refine ⟨[], fun C k k' still => ?_⟩
    cases C.still still
    rfl
  | some grace =>
    obtain ⟨⟨t, finished⟩, done⟩ : ∃ waited, v.awaitDrain (nanos grace) s = waited := ⟨_, rfl⟩
    cases finished with
    | true =>
      refine ⟨o.waited (nanos grace) s, fun C k k' moves => ?_⟩
      simp only [Venue.settle, Companion.live, Live.on, C.awaitDrain moves, done]
    | false =>
      generalize told : v.log (event ("Engine output still open " ++ Text.decimalNat grace ++
        "ms after the driver finished; terminating engine")) t = u
      refine ⟨o.waited (nanos grace) s ++ o.waited Venue.stopWait (v.stopDrain (v.endEngine u)),
        fun C k k' moves => ?_⟩
      obtain ⟨_, waited, moves⟩ := C.split moves
      simp only [Venue.settle, Venue.note, Companion.live, Live.on, C.awaitDrain waited, done, C.log_note, told,
        C.endEngine, C.stopDrain, C.awaitDrain moves]

theorem collect_accompanied (l : Live σ) (stuck : Bool) :
    Accompanied o (fun w _ l => w.collect l stuck) l := by
  cases stuck with
  | true =>
    refine ⟨[], fun C k k' still => ?_⟩
    cases C.still still
    simp only [Venue.collect, C.note_live, if_true]
    simp only [Companion.live, Live.on, Live.emit, C.leaveDrain]
  | false =>
    refine ⟨o.joined l.stage, fun C k k' moves => ?_⟩
    simp only [Venue.collect, Companion.live, Live.on, C.joinDrain moves, Bool.false_eq_true, if_false]

theorem conclude_accompanied (l : Live σ) (stuck : Bool) (drain : DrainStats) (exit : Option Exit) :
    Accompanied o (fun w _ l => w.conclude l stuck drain exit) l := by
  cases stuck with
  | true =>
    refine ⟨[], fun C k k' still => ?_⟩
    cases C.still still
    simp only [Venue.conclude, Venue.enter, Venue.note, Live.emit, Companion.live, Live.on, if_true,
      C.log_note, C.stats, C.clock]
  | false =>
    refine ⟨o.loggerJoined l.stage, fun C k k' moves => ?_⟩
    simp only [Venue.conclude, Venue.enter, Venue.note, Live.emit, Companion.live, Live.on,
      Bool.false_eq_true, if_false, C.joinLogger moves, C.log_note, C.stats, C.clock]

theorem release_accompanied (l : Live σ) (stuck : Bool) :
    Accompanied o (fun w _ l => w.release l stuck) l := by
  obtain ⟨seen, collects⟩ := collect_accompanied o l stuck
  obtain ⟨⟨m, drain⟩, collected⟩ : ∃ collected, v.collect l stuck = collected := ⟨_, rfl⟩
  obtain ⟨⟨t, exit⟩, done⟩ : ∃ dismissed, v.dismiss m.stage = dismissed := ⟨_, rfl⟩
  simp only [collected] at collects
  have dismisses {ι W W' : Type} (C : Companion o ι W W') {k k' : ι}
      (moves : C.Moves (o.dismissed m.stage) k k') :
      C.venue.dismiss (C.live m k).stage = (C.stage t k', exit) := by
    have dismissed : C.venue.dismiss (C.live m k).stage = _ := C.dismiss moves
    rw [dismissed, done]
  cases drain with
  | error lost =>
    refine ⟨seen ++ o.dismissed m.stage, fun C k k' moves => ?_⟩
    obtain ⟨k₁, first, moves⟩ := C.split moves
    simp only [Venue.release, collects C first, dismisses C moves, collected, done, C.restage]
  | ok drain =>
    obtain ⟨seen', concludes⟩ := conclude_accompanied o { m with stage := t } stuck drain exit
    refine ⟨seen ++ (o.dismissed m.stage ++ seen'), fun C k k' moves => ?_⟩
    obtain ⟨k₁, first, moves⟩ := C.split moves
    obtain ⟨k₂, second, moves⟩ := C.split moves
    simp only [Venue.release, collects C first, dismisses C second, collected, done, C.restage,
      concludes C moves]

theorem finish_accompanied (l : Live σ) : Accompanied o (fun w _ => w.finish) l := by
  generalize entered : v.enter { l with stage := v.closeInput l.stage } .awaitingDrainerJoin = m
  obtain ⟨seen, settles⟩ := settle_accompanied o m
  obtain ⟨⟨n, stuck⟩, settled⟩ : ∃ settled, v.settle m = settled := ⟨_, rfl⟩
  obtain ⟨seen', releases⟩ := release_accompanied o n stuck
  simp only [settled] at settles
  refine ⟨seen ++ seen', fun C k k' moves => ?_⟩
  obtain ⟨k₁, waits, moves⟩ := C.split moves
  have closed : C.venue.closeInput (C.live l k).stage = _ := C.closeInput l.stage k
  simp only [Venue.finish, closed, C.restage, C.enter_live, entered, settles C waits, settled,
    releases C moves]

/-! ### Drivers -/

/-- A driver is served in some way, and so is the driver of every companion. -/
def DriverAccompanied {α : Type} (does : ∀ {W W' : Type}, Reception W W' → W' → α × W') (t : τ) : Prop :=
  ∃ seen, ∀ {ι W W' : Type} (C : Companion o ι W W') {k k' : ι}, C.Moves seen k k' →
    does C.reception (C.driver t k) = ((does r t).1, C.driver (does r t).2 k')

theorem driver_still {α : Type} (answer : α) (t : τ) :
    DriverAccompanied o (fun _ t => (answer, t)) t := by
  refine ⟨[], fun C k k' still => ?_⟩
  cases C.still still
  rfl

theorem call_accompanied (call : Call) (t : τ) : DriverAccompanied o (fun r => r.call call) t := by
  refine ⟨o.readied call t ++ o.called call (r.ready call t), fun C k k' moves => ?_⟩
  obtain ⟨_, ready, moves⟩ := C.split moves
  simp only [Reception.call, C.ready ready, C.perform moves]

theorem deliver_accompanied (reply : Driver.Reply) (t : τ) :
    DriverAccompanied o (fun r => r.deliver reply) t := by
  refine ⟨o.wrote reply.line (r.note (content ("Driver reply: " ++ reply.text)) t), fun C k k' moves => ?_⟩
  simp only [Reception.deliver, C.note, C.write moves]

theorem repliesLost_companion {ι W W' : Type} (C : Companion o ι W W') (t : τ) (k : ι) :
    C.reception.repliesLost (C.driver t k) = C.driver (r.repliesLost t) k := by
  simp only [Reception.repliesLost, C.note, C.hangUp]

theorem serveRequest_accompanied (request : Driver.Request) (t : τ) :
    DriverAccompanied o (fun r => Driver.serveRequest r.desk request) t := by
  unfold Driver.serveRequest
  cases request.call with
  | error e =>
    obtain ⟨seen, delivers⟩ := deliver_accompanied o (.error e.message) t
    refine ⟨seen, fun C k k' moves => ?_⟩
    simp only [Reception.desk, delivers C moves]
  | ok call =>
    obtain ⟨seen, calls⟩ := call_accompanied o call t
    obtain ⟨⟨result, u⟩, called⟩ : ∃ called, r.call call t = called := ⟨_, rfl⟩
    simp only [called] at calls
    cases result with
    | error e =>
      obtain ⟨seen', delivers⟩ := deliver_accompanied o (.error e.message) u
      refine ⟨seen ++ seen', fun C k k' moves => ?_⟩
      obtain ⟨_, first, moves⟩ := C.split moves
      simp only [Reception.desk, calls C first, called, delivers C moves]
    | ok reply =>
      obtain ⟨seen', delivers⟩ := deliver_accompanied o reply u
      obtain ⟨⟨outcome, w⟩, delivered⟩ : ∃ delivered, r.deliver reply u = delivered := ⟨_, rfl⟩
      simp only [delivered] at delivers
      refine ⟨seen ++ seen', fun C k k' moves => ?_⟩
      obtain ⟨_, first, moves⟩ := C.split moves
      cases outcome with
      | ok => simp only [Reception.desk, calls C first, delivers C moves, called, delivered]
      | error fault =>
        cases fault with
        | brokenPipe =>
          -- the driver is told no more
          simp only [Reception.desk, calls C first, delivers C moves, called, delivered,
            repliesLost_companion o C]
        | _ => simp only [Reception.desk, calls C first, delivers C moves, called, delivered]

theorem serveText_accompanied (replies : Bool) (line : String) (t : τ) :
    DriverAccompanied o (fun r => Driver.serveText r.desk replies line) t := by
  unfold Driver.serveText
  dsimp only
  split
  · exact driver_still o _ t
  · split
    · exact driver_still o _ t
    · split
      · exact serveRequest_accompanied o _ t
      · exact driver_still o _ t

theorem serveRead_accompanied (replies : Bool) (read : LineRead) (t : τ) :
    DriverAccompanied o (fun r => Driver.serveRead r.desk replies read) t := by
  unfold Driver.serveRead
  split
  · exact driver_still o _ t
  · split
    · exact driver_still o _ t
    · exact serveText_accompanied o replies _ t

theorem serve_accompanied (lines : Nat) (replies : Bool) (t : τ) :
    DriverAccompanied o (fun r => Driver.serve r.desk lines replies) t := by
  -- what is seen of the lines to come is known once the first has been served
  induction lines generalizing t replies with
  | zero => exact driver_still o _ t
  | succ lines ih =>
    have next {W W' : Type} (r : Reception W W') : r.desk.nextLine = r.nextLine := rfl
    obtain ⟨⟨read, u⟩, done⟩ : ∃ next, r.nextLine t = next := ⟨_, rfl⟩
    cases read with
    | none =>
      refine ⟨o.lined t, fun C k k' moves => ?_⟩
      simp only [Driver.serve, next, C.nextLine moves, done]
    | some read =>
      obtain ⟨seen, serves⟩ := serveRead_accompanied o replies read u
      obtain ⟨⟨step, w⟩, served⟩ : ∃ served, Driver.serveRead r.desk replies read u = served := ⟨_, rfl⟩
      simp only [served] at serves
      cases step with
      | goesOn replies =>
        obtain ⟨seen', rest⟩ := ih replies w
        refine ⟨o.lined t ++ (seen ++ seen'), fun C k k' moves => ?_⟩
        obtain ⟨_, first, moves⟩ := C.split moves
        obtain ⟨_, second, moves⟩ := C.split moves
        simp only [Driver.serve, next, C.nextLine first, done, serves C second, served, rest C moves]
      | fails e =>
        refine ⟨o.lined t ++ seen, fun C k k' moves => ?_⟩
        obtain ⟨_, first, moves⟩ := C.split moves
        simp only [Driver.serve, next, C.nextLine first, done, serves C moves, served]

theorem run_accompanied (s : σ) :
    ∃ seen, ∀ {ι W W' : Type} (C : Companion o ι W W') {k k' : ι}, C.Moves seen k k' →
      C.reception.run C.venue name (C.stage s k) =
        (C.stage (r.run v name s).1 k', (r.run v name s).2) := by
  cases done : r.start s with
  | error failed =>
    obtain ⟨e, t⟩ := failed
    refine ⟨o.failed done, fun C k k' moves => ?_⟩
    simp only [Reception.run, C.unstarted done moves, done]
  | ok t =>
    obtain ⟨seen, serves⟩ := serve_accompanied o Scene.patience true t
    obtain ⟨⟨outcome, u⟩, served⟩ :
      ∃ served, Driver.serve r.desk Scene.patience true t = served := ⟨_, rfl⟩
    simp only [served] at serves
    refine ⟨o.begun s t ++ (seen ++ o.stopped (!outcome.toBool) u), fun C k k' moves => ?_⟩
    obtain ⟨_, first, moves⟩ := C.split moves
    obtain ⟨_, second, moves⟩ := C.split moves
    have stops := C.stop moves
    cases outcome with
    | error e =>
      simp only [Except.toBool, Bool.not_false] at stops
      simp only [Reception.run, C.start done first, done, serves C second, served, stops]
    | ok =>
      simp only [Except.toBool, Bool.not_true] at stops
      simp only [Reception.run, C.start done first, done, serves C second, served, stops]
      split
      · rw [C.log_note]
      · rfl

/-! ### Whole sessions -/

theorem drive_accompanied (l : Live σ) :
    Accompanied o (fun w r l => w.drive l name (r.driver w name)) l := by
  obtain ⟨seen, runs⟩ := run_accompanied o (v.enter l .driverExecuting).stage
  obtain ⟨⟨s, outcome⟩, ran⟩ :
    ∃ ran, r.run v name (v.enter l .driverExecuting).stage = ran := ⟨_, rfl⟩
  simp only [ran] at runs
  refine ⟨seen, fun C k k' moves => ?_⟩
  have runs : C.reception.run C.venue name (C.live (v.enter l .driverExecuting) k).stage = _ := runs C moves
  cases outcome with
  | ok =>
    simp only [Venue.drive, Reception.driver, C.enter_live, runs, ran, Except.mapError, C.restage]
  | error e =>
    simp only [Venue.drive, Reception.driver, C.enter_live, runs, ran, Except.mapError, C.restage,
      C.note_live]
    exact Prod.ext (C.enter_live (Live.emit _ _) .driverDone k') rfl

theorem conduct_accompanied (stage : σ) (l : Live σ) {c : Conducted σ Unit}
    (conducted : v.conduct stage (.ok l) name (r.driver v name) = c) :
    ∃ seen, ∀ {ι W W' : Type} (C : Companion o ι W W') {k k' : ι} (other : W),
      C.Moves seen k k' → C.venue.conduct other (.ok (C.live l k)) name (C.reception.driver C.venue name) =
        c.on (C.stage c.stage k') := by
  obtain ⟨seen, drives⟩ := drive_accompanied o l
  obtain ⟨⟨m, told, outcome⟩, drove⟩ : ∃ drove, v.drive l name (r.driver v name) = drove := ⟨_, rfl⟩
  obtain ⟨seen', finishes⟩ := finish_accompanied o m
  obtain ⟨⟨n, report⟩, finished⟩ : ∃ finished, v.finish m = finished := ⟨_, rfl⟩
  simp only [drove] at drives
  simp only [finished] at finishes
  refine ⟨seen ++ seen', fun C k k' other moves => ?_⟩
  obtain ⟨_, first, moves⟩ := C.split moves
  subst conducted
  simp only [Venue.conduct, drives C first, drove, finishes C moves, finished]
  cases outcome with
  | ok => rfl
  | error failure =>
    cases report with
    | ok => rfl
    | error lost => simp only [C.note_live]; rfl

/-! ### Watchers and replays -/

def watcher : Companion o (List Seen) (σ × List Seen) (τ × List Seen) where
  venue := o.venue
  reception := o.reception
  stage := Prod.mk
  driver := Prod.mk
  Moves seen record record' := record' = record ++ seen
  still moves := by simpa using moves.symm
  split moves := ⟨_, rfl, by rw [moves, List.append_assoc]⟩
  log_note _ _ _ := rfl
  clock _ _ := rfl
  stats _ _ := rfl
  closeInput _ _ := rfl
  awaitDrain := by rintro _ _ _ _ rfl; rfl
  endEngine _ _ := rfl
  stopDrain _ _ := rfl
  leaveDrain _ _ := rfl
  joinDrain := by rintro _ _ _ rfl; rfl
  dismiss := by rintro _ _ _ rfl; rfl
  joinLogger := by rintro _ _ _ rfl; rfl
  start := by
    rintro s t _ _ done rfl
    dsimp only [Outlook.reception]
    split
    · rename_i failed
      cases done.symm.trans failed
    · rename_i started
      cases done.symm.trans started
      rfl
  unstarted := by
    rintro s e t _ _ done rfl
    dsimp only [Outlook.reception]
    split
    · rename_i failed
      cases done.symm.trans failed
      rfl
    · rename_i started
      cases done.symm.trans started
  nextLine := by rintro _ _ _ rfl; rfl
  ready := by rintro _ _ _ _ rfl; rfl
  perform := by rintro _ _ _ _ rfl; rfl
  note _ _ _ := rfl
  write := by rintro _ _ _ _ rfl; rfl
  hangUp _ _ := rfl
  stop := by rintro _ _ _ _ rfl; rfl

namespace Replay

theorem work_tells {old new : View} {becomes : old.Becomes new} {told : List Told} {seen : List Seen}
    (tells : List.Forall₂ Told.Tells told (.worked old new becomes :: seen)) (left : List Told) :
    ∃ rest, List.Forall₂ Told.Tells rest seen ∧ work ⟨old, told ++ left⟩ = ⟨new, rest ++ left⟩ := by
  cases tells with
  | cons first rest =>
    cases first with
    | worked _ same =>
      rw [same]
      exact ⟨_, rest, rfl⟩

theorem met_tells {sight : Sight} {told : List Told} (tells : List.Forall₂ Told.Tells told [.met sight]) :
    told = [.met sight] := by
  cases tells with
  | cons first rest =>
    cases first
    cases rest
    rfl

theorem worked_tells {old new : View} {becomes : old.Becomes new} {told : List Told}
    (tells : List.Forall₂ Told.Tells told [.worked old new becomes]) (left : List Told) :
    work ⟨old, told ++ left⟩ = ⟨new, left⟩ := by
  obtain ⟨_, rest, worked⟩ := work_tells tells left
  cases rest
  exact worked

/-- Others are at work until something is met. -/
theorem worked_met_tells {old new : View} {becomes : old.Becomes new} {sight : Sight} {told : List Told}
    (tells : List.Forall₂ Told.Tells told [.worked old new becomes, .met sight]) (left : List Told) :
    work ⟨old, told ++ left⟩ = ⟨new, .met sight :: left⟩ := by
  obtain ⟨_, rest, worked⟩ := work_tells tells left
  rw [worked, met_tells rest]
  rfl

end Replay

def replayer : Companion o (List Told) Replay Replay where
  venue := Replay.venue
  reception := Replay.reception name
  stage s left := ⟨o.view s, left⟩
  driver t left := ⟨o.view' t, left⟩
  Moves seen left left' := ∃ told, left = told ++ left' ∧ List.Forall₂ Told.Tells told seen
  still := by
    rintro left left' ⟨told, rfl, tells⟩
    cases tells
    rfl
  split := by
    rintro first second left left' ⟨told, rfl, tells⟩
    refine ⟨told.drop first.length ++ left', ⟨told.take first.length, ?_, List.forall₂_take_append _ _ _ tells⟩,
      _, rfl, List.forall₂_drop_append _ _ _ tells⟩
    rw [← List.append_assoc, List.take_append_drop]
  log_note note s left := congrArg (Replay.mk · left) (o.log note s).symm
  clock s _ := (o.clock s).symm
  stats s _ := (o.stats s).symm
  closeInput s left := congrArg (Replay.mk · left) (o.closeInput s).symm
  awaitDrain := by
    rintro limit s _ left ⟨told, rfl, tells⟩
    simp only [Replay.venue, Replay.worked_met_tells tells]
    cases (v.awaitDrain limit s).2 <;> rfl
  endEngine s left := congrArg (Replay.mk · left) (o.endEngine s).symm
  stopDrain s left := congrArg (Replay.mk · left) (o.stopDrain s).symm
  leaveDrain s left := congrArg (Replay.mk · left) (o.leaveDrain s).symm
  joinDrain := by
    rintro s _ left ⟨told, rfl, tells⟩
    simp only [Replay.venue, Replay.worked_tells tells, o.counts]
  dismiss := by
    rintro s _ left ⟨told, rfl, tells⟩
    simp only [Replay.venue, Replay.worked_tells tells, o.exit]
  joinLogger := by
    rintro s _ left ⟨told, rfl, tells⟩
    exact Replay.worked_tells tells left
  start := by
    rintro s t _ left done ⟨told, rfl, tells⟩
    simp only [Replay.reception, Replay.worked_met_tells tells]
    exact congrArg (fun view => Except.ok (Replay.mk view left)) (o.started done).symm
  unstarted := by
    rintro s e t _ left done ⟨told, rfl, tells⟩
    simp only [Replay.reception, Replay.worked_met_tells tells]
    rfl
  nextLine := by
    rintro t _ left ⟨told, rfl, tells⟩
    simp only [Replay.reception, Replay.worked_met_tells tells]
    rfl
  ready := by
    rintro call t _ left ⟨told, rfl, tells⟩
    exact Replay.worked_tells tells left
  perform := by
    rintro call t _ left ⟨told, rfl, tells⟩
    rw [Replay.met_tells tells, List.singleton_append, Replay.reception_perform, o.perform call t]
  note note t left := congrArg (Replay.mk · left) (o.note note t).symm
  write := by
    rintro bytes t _ left ⟨told, rfl, tells⟩
    simp only [Replay.reception, Replay.worked_met_tells tells]
    cases (r.write bytes t).2 <;> rfl
  hangUp t left := congrArg (Replay.mk · left) (o.hangUp t).symm
  stop := by
    rintro failed t _ left ⟨told, rfl, tells⟩
    simp only [Replay.reception, Replay.worked_met_tells tells]
    rfl

def Outlook.sights (l : Live σ) : List Seen :=
  (o.venue.conduct (l.stage, []) (.ok (l.on (l.stage, []))) name (o.reception.driver o.venue name)).stage.2

/-- A replay of an account of what a session saw ends as the session did, and leaves the same log. -/
theorem conduct_replayed (stage : σ) (l : Live σ) {c : Conducted σ Unit}
    (conducted : v.conduct stage (.ok l) name (r.driver v name) = c) {told : List Told}
    (tells : List.Forall₂ Told.Tells told (o.sights l)) (other : Replay) :
    Replay.venue.conduct other (.ok (l.on ⟨o.view l.stage, told⟩)) name
      ((Replay.reception name).driver Replay.venue name) = c.on ⟨o.view c.stage, []⟩ := by
  -- the watcher writes down what is seen, and the replay is given an account of just that
  obtain ⟨seen, shown⟩ := conduct_accompanied o stage l conducted
  have watched : o.venue.conduct (l.stage, []) (.ok (l.on (l.stage, []))) name
      (o.reception.driver o.venue name) = c.on (c.stage, seen) := shown (watcher o) (l.stage, []) rfl
  have saw : o.sights l = seen := congrArg (·.stage.2) watched
  rw [saw] at tells
  exact shown (replayer o) other ⟨told, (List.append_nil told).symm, tells⟩

end

end PartyBridge.Session
