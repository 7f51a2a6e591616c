import PartyBridge.Proofs.Bridge.Discretion
import PartyBridge.Proofs.Engine.Discretion
import PartyBridge.Proofs.EngineOutput.Discretion
import PartyBridge.Proofs.Session.Reception

/-!
# Views of a session

What is logged without content, and how calls end, is settled by a small part of a session's surroundings:
how far the drain, the reader of diagnostics and the supervisor are, and the bridge. A view shows this part.
Whatever goes on around a session comes down, for its view, to a few happenings: time passes, lines arrive,
outputs end, and the supervisor is answered (`accounts_steady`).
-/

namespace PartyBridge.Session
open Engine EngineOutput Journal ByteStream

/-- What there is to see of a session: the clock, the bridge, the marker and the drain, the diagnostics and
whether they have ended, the supervisor, and the log without content. -/
structure View where
  clock : Nat
  bridge : Bridge
  drain : Option (List Char × Feed)
  diagnostics : Option (Diagnostics × Bool)
  supervisor : Option Supervisor
  log : List String
deriving DecidableEq

namespace View

variable (v : View)

def note (note : Note) : View :=
  { v with log := v.log ++ Level.events.messages [note] }

def logs (notes : List Note) : View :=
  { v with log := v.log ++ (Level.events.messages notes).reverse }

/-- The drain has come so far, and hands over its queue and its notes. -/
def fed (marker : List Char) (f : Feed) : View :=
  { v.logs f.drain.notes with
    bridge := { v.bridge with queue := f.drain.queue }
    drain := some (marker, { f.cut with drain := ⟨f.drain.stats, .empty, []⟩ }) }

/-- Lets the drain work on the queue, if there is one. -/
def feeds (work : List Char → Feed → Feed) : View :=
  match v.drain with
  | none => v
  | some (marker, f) => v.fed marker (work marker { f with drain := { f.drain with queue := v.bridge.queue } })

/-- The reader of diagnostics has come so far, and hands over its notes. -/
def diagnosed (d : Diagnostics) (finished : Bool) : View :=
  { v.logs d.notes with diagnostics := some ({ d with notes := [] }, finished) }

/-- The supervisor has come so far, with this queue, and hands over its notes. -/
def supervised (s : Supervisor) (queue : ValueQueue) : View :=
  { v.logs s.notes with
    bridge := { v.bridge with queue }
    supervisor := some { s with notes := [] } }

/-- The supervisor gets an answer. Where it is to close the queue, that is done, which is its answer. -/
def answered (answer : Answer) : View :=
  match v.supervisor with
  | none => v
  | some s =>
    match s.phase.closes? with
    | some exit =>
      let (queue, first) := v.bridge.queue.close (.engineExited exit)
      v.supervised (s.answer (.closed first)) queue
    | none => v.supervised (s.answer answer) v.bridge.queue

end View

/-- What happens around a session: time passes, whole lines of the engine's output or of its diagnostics
arrive, after which these may end, and the supervisor is answered. -/
inductive Happening where
  | passed (clock : Nat)
  | output (lines : List Bytes) (ended : Bool)
  | diagnostics (lines : List Bytes) (ended : Bool)
  | answered (answer : Answer)

namespace View

def happen (v : View) : Happening → View
  | .passed clock => { v with clock }
  | .output lines ended => v.feeds fun marker f => f.reads marker lines ended
  | .diagnostics lines ended =>
    match v.diagnostics with
    | none => v
    | some (d, finished) => v.diagnosed (d.reads lines ended) (finished || ended)
  | .answered answer => v.answered answer

def after (v : View) (happenings : List Happening) : View :=
  happenings.foldl happen v

/-- The view with an earlier log before its own. -/
def behind (v : View) (log : List String) : View :=
  { v with log := log ++ v.log }

/-- What was logged before has no part in what happens. -/
theorem happen_behind (v : View) (log : List String) (happening : Happening) :
    (v.behind log).happen happening = (v.happen happening).behind log := by
  have logs (v : View) (notes : List Note) : (v.behind log).logs notes = (v.logs notes).behind log := by
    simp only [View.logs, behind, List.append_assoc]
  cases happening with
  | passed clock => rfl
  | output lines ended =>
    have drain : (v.behind log).drain = v.drain := rfl
    simp only [happen, feeds, drain]
    split
    · rfl
    · simp only [fed, logs]
      rfl
  | diagnostics lines ended =>
    have diagnostics : (v.behind log).diagnostics = v.diagnostics := rfl
    simp only [happen, diagnostics]
    split
    · rfl
    · simp only [diagnosed, logs]
      rfl
  | answered answer =>
    have supervisor : (v.behind log).supervisor = v.supervisor := rfl
    simp only [happen, answered, supervisor]
    split
    · rfl
    · split
      · simp only [supervised, logs]
        rfl
      · simp only [supervised, logs]
        rfl

theorem after_behind (v : View) (log : List String) (happenings : List Happening) :
    (v.behind log).after happenings = (v.after happenings).behind log := by
  induction happenings generalizing v with
  | nil => rfl
  | cons first rest ih =>
    have next : (v.behind log).after (first :: rest) = ((v.happen first).behind log).after rest := by
      rw [← happen_behind]
      rfl
    exact next.trans (ih _)

/-- One view comes from another by what happens. -/
def Becomes (v w : View) : Prop :=
  ∃ happenings, w = v.after happenings

namespace Becomes

variable {v w x : View}

theorem refl (v : View) : v.Becomes v :=
  ⟨[], rfl⟩

theorem trans (first : v.Becomes w) (second : w.Becomes x) : v.Becomes x := by
  obtain ⟨happenings, rfl⟩ := first
  obtain ⟨later, rfl⟩ := second
  exact ⟨happenings ++ later, (List.foldl_append ..).symm⟩

theorem one (v : View) (happening : Happening) : v.Becomes (v.happen happening) :=
  ⟨[happening], rfl⟩

end Becomes

/-! ### What a session does itself -/

/-- The bridge has been used, and hands over its notes. -/
def used (v : View) (bridge : Bridge) : View :=
  { v.logs bridge.notes with bridge := { bridge.facing none with notes := [] } }

/-- A call is made, in which writes fail so or not at all. -/
def call (v : View) (fault : Option WriteFault) (call : Call) : Except BridgeError Driver.Reply × View :=
  let (bridge, result) := (v.bridge.facing fault).perform call
  (result.getD (.error (.engineTerminated .cancelled)), v.used bridge)

def closeInput (v : View) : View :=
  v.used v.bridge.closeInput

def stopDrain (v : View) : View :=
  v.feeds fun _ => Feed.shutdown

def leaveDrain (v : View) : View :=
  v.feeds fun _ => Feed.detach

/-- The counts of the drain, which are lost if it has not finished. -/
def counts (v : View) : Except String DrainStats :=
  if v.drain.all fun d => d.2.finished then .ok (v.drain.elim .zero fun d => d.2.drain.stats)
  else .error "engine output never ends"

/-- How the engine ended, as far as the supervisor knows. -/
def exit (v : View) : Option Exit :=
  v.supervisor.bind fun s => s.result?.bind id

end View

def startedNote (pid : Nat) (name : String) : Note :=
  event ("Driver started (pid " ++ Text.decimalNat pid ++ "): " ++ name)

/-- How a session and its driver are seen at a venue: what they do themselves shows at once, and while they
wait, the view becomes another by what happens. What else they meet is the number of the driver and what
writes fail with. -/
structure Outlook {σ τ : Type} (v : Venue σ) (r : Reception σ τ) (name : String) where
  view : σ → View
  view' : τ → View
  pid : τ → Nat
  fault : Call → τ → Option WriteFault
  log : ∀ note s, view (v.log note s) = (view s).note note
  clock : ∀ s, v.clock s = (view s).clock
  stats : ∀ s, v.stats s = (view s).bridge.stats
  closeInput : ∀ s, view (v.closeInput s) = (view s).closeInput
  awaitDrain : ∀ limit s, (view s).Becomes (view (v.awaitDrain limit s).1)
  endEngine : ∀ s, view (v.endEngine s) = view s
  stopDrain : ∀ s, view (v.stopDrain s) = (view s).stopDrain
  leaveDrain : ∀ s, view (v.leaveDrain s) = (view s).leaveDrain
  joinDrain : ∀ s, (view s).Becomes (view (v.joinDrain s).1)
  counts : ∀ s, (v.joinDrain s).2 = (view (v.joinDrain s).1).counts
  dismiss : ∀ s, (view s).Becomes (view (v.dismiss s).1)
  exit : ∀ s, (v.dismiss s).2 = (view (v.dismiss s).1).exit
  joinLogger : ∀ s, (view s).Becomes (view (v.joinLogger s))
  unstarted : ∀ {s e t}, r.start s = .error (e, t) → (view s).Becomes (view t)
  started : ∀ {s t}, r.start s = .ok t →
    view' t = { view s with clock := (view' t).clock }.note (startedNote (pid t) name)
  nextLine : ∀ t, (view' t).Becomes (view' (r.nextLine t).2)
  ready : ∀ call t, (view' t).Becomes (view' (r.ready call t))
  perform : ∀ call t, (view' t).call (fault call t) call = ((r.perform call t).1, view' (r.perform call t).2)
  note : ∀ note t, view' (r.note note t) = (view' t).note note
  write : ∀ bytes t, (view' t).Becomes (view' (r.write bytes t).1)
  hangUp : ∀ t, view' (r.hangUp t) = view' t
  stop : ∀ failed t, (view' t).Becomes (view (r.stop failed t).1)

/-! ### Stages -/

namespace Stage

def debugLog (st : Stage) : List String :=
  Level.events.messages st.scene.notes.reverse

def view (st : Stage) : View where
  clock := st.scene.machine.clock
  bridge := st.called.facing none
  drain := st.scene.drainer.map fun d => (d.marker, { d.feed.cut with drain := { d.feed.drain with queue := .empty } })
  diagnostics := st.scene.logger.map fun l => (l.diagnostics, l.finished)
  supervisor := st.scene.watch.map fun w => w.supervisor.timeless
  log := st.debugLog

end Stage

theorem debugLog_logAll (st : Stage) (notes : List Note) :
    Stage.debugLog { st with scene := st.scene.logAll notes } =
      st.debugLog ++ (Level.events.messages notes).reverse := by
  simp [Stage.debugLog, Scene.logAll, Level.messages]

theorem debugLog_log (st : Stage) (note : Note) :
    (st.log note).debugLog = st.debugLog ++ Level.events.messages [note] := by
  simp [Stage.debugLog, Stage.log, Scene.log, Level.messages]

theorem log_view (st : Stage) (note : Note) : (st.log note).view = st.view.note note := by
  have logged := debugLog_log st note
  unfold Stage.view View.note
  rw [logged]
  rfl

theorem logAll_view (st : Stage) (notes : List Note) :
    (st.withScene (st.scene.logAll notes)).view = st.view.logs notes := by
  have logged := debugLog_logAll st notes
  unfold Stage.view View.logs Stage.withScene
  rw [logged]
  rfl

/-! ### What happens on a stage -/

theorem View.fed_congr (v : View) (marker : List Char) {f g : Feed} (same : f.cut = g.cut) :
    v.fed marker f = v.fed marker g := by
  have cut (f : Feed) : v.fed marker f = v.fed marker f.cut := rfl
  rw [cut f, same, ← cut g]

section
variable (st : Stage) {d : Drainer}

def Stage.feed (d : Drainer) : Feed :=
  { d.feed with drain := { d.feed.drain with queue := st.scene.queue } }

theorem withFeed_view (work : Feed → Feed) :
    (st.withScene (st.scene.withFeed d work)).view = st.view.fed d.marker (work (st.feed d)) := by
  rw [View.fed, ← logAll_view]
  rfl

theorem feeds_view (drains : st.scene.drainer = some d) (work : List Char → Feed → Feed) :
    st.view.feeds work = st.view.fed d.marker (work d.marker (st.feed d).cut) := by
  have shown : st.view.drain = some (d.marker, _) := congrArg (Option.map _) drains
  rw [View.feeds, shown]
  rfl

theorem toDrain_view {work : Feed → Feed} (cuts : ∀ f : Feed, (work f.cut).cut = (work f).cut) :
    (st.withScene (st.scene.toDrain work)).view = st.view.feeds fun _ => work := by
  unfold Scene.toDrain
  cases drains : st.scene.drainer with
  | none =>
    have nothing : st.view.drain = none := congrArg (Option.map _) drains
    rw [View.feeds, nothing]
    rfl
  | some d =>
    rw [feeds_view st drains, withFeed_view]
    exact (st.view.fed_congr d.marker (cuts _)).symm

end

/-- Whatever goes on in a scene, the view of a session in it changes by what happens. -/
def Scene.Accounts (s t : Scene) : Prop :=
  ∀ st : Stage, (st.withScene s).view.Becomes (st.withScene t).view

namespace Scene

theorem machine_accounts (s : Scene) (machine : Host.Machine) : s.Accounts { s with machine } :=
  fun st => .one (st.withScene s).view (.passed machine.clock)

theorem Accounts.refl (s : Scene) : s.Accounts s :=
  fun _ => .refl _

theorem Accounts.trans {s t u : Scene} (first : s.Accounts t) (second : t.Accounts u) : s.Accounts u :=
  fun st => (first st).trans (second st)

theorem withFeed_accounts {s : Scene} {d : Drainer} (drains : s.drainer = some d) {work : Feed → Feed}
    {ended : Bool} (reads : ∀ f : Feed, ∃ lines, (work f).cut = (f.cut.reads d.marker lines ended).cut)
    (machine : Host.Machine) : s.Accounts ({ s with machine }.withFeed d work) := by
  refine (machine_accounts s machine).trans fun st => ?_
  generalize before : st.withScene { s with machine } = now
  have drains : now.scene.drainer = some d := by
    rw [← before]
    exact drains
  obtain ⟨lines, read⟩ := reads (now.feed d)
  refine ⟨[.output lines ended], ?_⟩
  calc (st.withScene ({ s with machine }.withFeed d work)).view
      = now.view.fed d.marker (work (now.feed d)) := by rw [← withFeed_view, ← before]; rfl
    _ = now.view.fed d.marker ((now.feed d).cut.reads d.marker lines ended) := now.view.fed_congr d.marker read
    _ = now.view.happen (.output lines ended) := (feeds_view now drains fun marker f => f.reads marker lines ended).symm

theorem drainTurn_accounts (s : Scene) : s.Accounts s.drainTurn.1 := by
  have still := Accounts.refl s
  have closes (t : Scene) (fd : Host.Fd) (finished : Bool) (accounts : s.Accounts t) :
      s.Accounts (if finished then t.release fd else t) := by
    cases finished <;> exact accounts
  unfold drainTurn
  split
  · exact still
  · rename_i d drains
    split
    · exact still
    · dsimp only
      split
      · exact closes _ _ _ (withFeed_accounts drains (fun f => f.bytes_cut d.marker _) _)
      · exact still
      · exact closes _ _ _ (withFeed_accounts drains (fun f => f.eof_cut d.marker) _)

/-! ### Diagnostics -/

theorem bytes_diagnostics (l : Logger) (bytes : Bytes) :
    ∃ lines, (l.bytes bytes).diagnostics = l.diagnostics.reads lines false ∧
      (l.bytes bytes).finished = l.finished := by
  induction bytes generalizing l with
  | nil => exact ⟨[], rfl, rfl⟩
  | cons b bytes ih =>
    by_cases newline : b = 10
    · obtain ⟨lines, same, finished⟩ :=
        ih { l with pending := [], diagnostics := l.diagnostics.line (b :: l.pending).reverse }
      refine ⟨(b :: l.pending).reverse :: lines, ?_⟩
      rw [Logger.bytes, List.foldl_cons, if_pos newline]
      exact ⟨same, finished⟩
    · obtain ⟨lines, same, finished⟩ := ih { l with pending := b :: l.pending }
      refine ⟨lines, ?_⟩
      rw [Logger.bytes, List.foldl_cons, if_neg newline]
      exact ⟨same, finished⟩

theorem eof_diagnostics (l : Logger) : ∃ lines, l.eof.diagnostics = l.diagnostics.reads lines true := by
  unfold Logger.eof
  dsimp only
  split
  · exact ⟨[], rfl⟩
  · exact ⟨[l.pending.reverse], rfl⟩

theorem withLogger_accounts {s : Scene} {l l' : Logger} (logger : s.logger = some l) {lines : List Bytes}
    {ended : Bool} (reads : l'.diagnostics = l.diagnostics.reads lines ended)
    (finished : l'.finished = (l.finished || ended)) (machine : Host.Machine) :
    s.Accounts ({ s with machine }.withLogger l') := by
  refine (machine_accounts s machine).trans fun st => ?_
  generalize before : st.withScene { s with machine } = now
  have shown : now.view.diagnostics = some (l.diagnostics, l.finished) := by
    rw [← before]
    exact congrArg (Option.map _) logger
  refine ⟨[.diagnostics lines ended], ?_⟩
  have happened : now.view.happen (.diagnostics lines ended) =
      now.view.diagnosed (l.diagnostics.reads lines ended) (l.finished || ended) := by
    rw [View.happen, shown]
  calc (st.withScene ({ s with machine }.withLogger l')).view
      = now.view.diagnosed l'.diagnostics l'.finished := by
        rw [View.diagnosed, ← logAll_view, ← before]
        rfl
    _ = now.view.happen (.diagnostics lines ended) := by rw [happened, reads, finished]

theorem logTurn_accounts (s : Scene) : s.Accounts s.logTurn.1 := by
  have still := Accounts.refl s
  unfold logTurn
  split
  · exact still
  · rename_i l logger
    split
    · exact still
    · split
      · rename_i bytes _
        obtain ⟨lines, reads, finished⟩ := bytes_diagnostics l bytes
        exact withLogger_accounts logger reads (by rw [finished, Bool.or_false]) _
      · exact still
      · obtain ⟨lines, reads⟩ := eof_diagnostics l
        exact withLogger_accounts logger reads (by rw [Bool.or_true, Logger.eof]) _

/-! ### Supervision -/

/-- What a supervisor is told, and what it does then. -/
theorem answered_view {st : Stage} {t : Scene} {w w' : Watch} {ask : Ask} {answer : Answer}
    (watch : st.scene.watch = some w) (asks : w.supervisor.ask = some ask)
    (answered : st.scene.answerAsk w ask = some (t, w', answer)) :
    st.view.answered (w.supervisor.verdict answer) =
      st.view.supervised (w.supervisor.answer answer).timeless t.queue := by
  have shown : st.view.supervisor = some w.supervisor.timeless := congrArg (Option.map _) watch
  obtain ⟨-, -, -, ⟨exit, first, rfl, rfl, closed⟩ | ⟨other, queue⟩⟩ := Supervision.answerAsk_cases answered
  · have closed : st.view.bridge.queue.close (.engineExited exit) = (t.queue, first) := closed
    rw [View.answered, shown]
    dsimp only
    rw [Supervisor.closes_close asks]
    dsimp only
    rw [closed, w.supervisor.answer_timeless]
    rfl
  · have queue : t.queue = st.view.bridge.queue := queue
    rw [View.answered, shown]
    dsimp only
    rw [Supervisor.closes_other asks other, w.supervisor.answer_timeless, queue]

theorem answered_accounts {s t : Scene} {w w' : Watch} {ask : Ask} {answer : Answer}
    (watch : s.watch = some w) (asks : w.supervisor.ask = some ask)
    (answered : s.answerAsk w ask = some (t, w', answer)) :
    s.Accounts { t.logAll (w'.supervisor.answer answer).notes with
      watch := some { w' with supervisor := { w'.supervisor.answer answer with notes := [] } } } := by
  intro st
  obtain ⟨same, frame, -, -⟩ := Supervision.answerAsk_cases answered
  have told : (st.withScene s).view.answered (w.supervisor.verdict answer) = _ :=
    answered_view watch asks answered
  refine ⟨[.answered (w.supervisor.verdict answer), .passed t.machine.clock], ?_⟩
  have happened : (st.withScene s).view.after
      [.answered (w.supervisor.verdict answer), .passed t.machine.clock] =
      { (st.withScene s).view.supervised (w.supervisor.answer answer).timeless t.queue with
        clock := t.machine.clock } := by
    rw [← told]
    rfl
  obtain ⟨machine, queue, rfl⟩ : ∃ machine queue, t = { s with machine, queue } := ⟨_, _, frame⟩
  rw [happened, View.supervised, ← logAll_view, same]
  rfl

/-- A supervisor's waiting does not show. -/
theorem rewatch_view (st : Stage) {watch : Option Watch}
    (same : watch.map Watch.supervisor = st.scene.watch.map Watch.supervisor) :
    (st.withScene { st.scene with watch }).view = st.view := by
  have shown : watch.map (fun w => w.supervisor.timeless) =
      st.scene.watch.map fun w => w.supervisor.timeless := by
    simpa [Function.comp_def] using congrArg (Option.map Supervisor.timeless) same
  rw [Stage.view, Stage.view, ← shown]
  rfl

theorem watchTurn_accounts (fuel : Nat) (moved : Bool) (s : Scene) :
    s.Accounts (watchTurn fuel moved s).1 := by
  induction fuel generalizing moved s with
  | zero => exact .refl s
  | succ fuel ih =>
    rw [watchTurn]
    split
    · exact .refl s
    · rename_i w watch
      have waits (waitsUntil : Option Nat) : s.Accounts { s with watch := some { w with waitsUntil } } :=
        fun st => ⟨[], rewatch_view (st.withScene s) (by rw [Stage.withScene, watch]; rfl)⟩
      split
      · exact .refl s
      · rename_i ask asks
        split
        · rename_i t w' answer answered
          refine .trans (fun st => ?_) (ih true _)
          exact answered_accounts watch asks answered st
        · split
          · exact waits _
          · exact waits _
          · exact .refl s

/-- Whoever waits, the view changes meanwhile by what happens. -/
theorem accounts_steady : Steady Accounts where
  refl := .refl
  trans first second := first.trans second
  machine := machine_accounts
  taps s _ := .refl s
  drainTurn := drainTurn_accounts
  logTurn := logTurn_accounts
  watchTurn := watchTurn_accounts

end Scene

/-! ### Sessions on a stage -/

theorem closeInput_view (st : Stage) : st.closeInput.view = st.view.closeInput := by
  have commutes : st.view.bridge.closeInput = { st.bridge.closeInput with queue := st.scene.queue }.facing none := by
    obtain ⟨scene, bridge, inlet, errorOutput, home⟩ := st
    obtain ⟨engine, isOpen, queue, answers, screen, timeout, stats, notes⟩ := bridge
    cases isOpen <;> rfl
  rw [View.closeInput, commutes, View.used, ← logAll_view]
  unfold Stage.closeInput
  cases st.inlet <;> rfl

theorem joinDrain_counts (st : Stage) :
    (Stage.venue.joinDrain st).2 = (Stage.venue.joinDrain st).1.view.counts := by
  simp only [Stage.venue, Stage.onScene, Scene.joinDrain]
  generalize st.scene.awaitUntil Scene.drained = s
  obtain ⟨machine, queue, drainer, logger, watch, taps, notes⟩ := s
  cases drainer <;> rfl

theorem dismiss_exit (st : Stage) : (Stage.venue.dismiss st).2 = (Stage.venue.dismiss st).1.view.exit := by
  simp only [Stage.venue, Stage.onScene, Scene.dismiss]
  generalize Scene.awaitUntil _ Scene.unwatched = s
  obtain ⟨machine, queue, drainer, logger, watch, taps, notes⟩ := s
  cases watch with
  | none => rfl
  | some w => exact congrArg (Option.bind · id) w.supervisor.result_timeless.symm

theorem ready_view (st : Stage) (call : Call) : st.view.Becomes (st.ready call).view := by
  unfold Stage.ready
  split
  · split
    · exact Scene.accounts_steady.send _ _ _ st
    · exact .refl _
  · exact Scene.accounts_steady.awaitFor _ _ _ st
  · exact .refl _

theorem nextLine_view (fuel : Nat) (s : Service) :
    s.stage.view.Becomes (Service.nextLine fuel s).2.stage.view := by
  induction fuel generalizing s with
  | zero => exact .refl _
  | succ fuel ih =>
    unfold Service.nextLine
    split
    · exact .refl _
    · have waited := Scene.accounts_steady.awaitUntil s.stage.scene (fun scene =>
        (scene.machine.pipe s.output).size != 0 || !scene.machine.holds (.writeEnd s.output)) s.stage
      dsimp only
      split
      · refine .trans ?_ (ih _)
        exact waited.trans (Scene.machine_accounts _ _ s.stage)
      · split <;> exact waited

theorem after_view (st : Stage) (bridge : Bridge) : (st.after bridge).view = st.view.used bridge := by
  rw [View.used, ← logAll_view]
  rfl

theorem perform_view (st : Stage) (call : Call) :
    st.view.call (st.called.fault? call) call =
      ((st.called.perform call).2.getD (.error (.engineTerminated .cancelled)),
        (st.after (st.called.perform call).1).view) := by
  obtain ⟨result, left⟩ := st.called.perform_facing call
  have sinkless (bridge : Bridge) : st.view.used bridge = st.view.used (bridge.facing none) := rfl
  have shown : st.view.bridge.facing (st.called.fault? call) = st.called.facing (st.called.fault? call) := rfl
  rw [View.call, shown, after_view]
  dsimp only
  rw [result, sinkless, left, ← sinkless]

theorem dismiss_view (st : Stage) : st.view.Becomes (st.withScene st.scene.dismiss.1).view := by
  let released : Scene := { st.scene with watch := st.scene.watch.map fun w => { w with released := true } }
  have same : (st.withScene released).view = st.view := Scene.rewatch_view st (by simp [Function.comp_def])
  have waited := Scene.accounts_steady.awaitUntil released Scene.unwatched st
  rw [same] at waited
  exact waited

theorem stop_view (script : Driver.Script) (failed : Bool) (s : Service) :
    s.stage.view.Becomes ((Stage.reception script).stop failed s).1.view := by
  have closed : s.stage.scene.Accounts (s.close failed) := by
    cases failed with
    | false => exact .refl _
    | true => exact Scene.machine_accounts _ _
  have waited := closed.trans (Scene.accounts_steady.awaitUntil (s.close failed) fun scene =>
    !scene.machine.alive s.pid)
  exact waited.trans (Scene.machine_accounts _ _) s.stage

theorem startDriver_view {st : Stage} {script : Driver.Script} {s : Service}
    (started : startDriver st script = .ok s) :
    s.stage.view = { st.view with clock := s.stage.view.clock }.note (startedNote s.pid script.describe) := by
  unfold startDriver at started
  dsimp only at started
  split at started
  · cases started
  · split at started
    · cases started
    · cases started
      exact log_view (st.withScene { st.scene with machine := _ }) _

theorem start_ok {st : Stage} {script : Driver.Script} {s : Service} :
    (Stage.reception script).start st = .ok s ↔ startDriver st script = .ok s := by
  simp only [Stage.reception]
  cases startDriver st script <;> simp [Except.mapError]

theorem start_error {st st' : Stage} {script : Driver.Script} {e : Driver.DriverError} :
    (Stage.reception script).start st = .error (e, st') ↔ startDriver st script = .error e ∧ st' = st := by
  simp only [Stage.reception]
  cases startDriver st script <;> simp [Except.mapError, eq_comm]

/-- How a session and its script are seen on a stage. -/
def Stage.outlook (script : Driver.Script) : Outlook venue (reception script) script.describe where
  view := view
  view' s := s.stage.view
  pid := Service.pid
  fault call s := s.stage.called.fault? call
  log note st := log_view st note
  clock _ := rfl
  stats _ := rfl
  closeInput := closeInput_view
  awaitDrain limit st := Scene.accounts_steady.awaitFor _ _ _ st
  endEngine st := Scene.rewatch_view st (by simp [Function.comp_def])
  stopDrain st := toDrain_view st Feed.shutdown_cut
  leaveDrain st := toDrain_view st fun _ => rfl
  joinDrain st := Scene.accounts_steady.awaitUntil _ _ st
  counts := joinDrain_counts
  dismiss := dismiss_view
  exit := dismiss_exit
  joinLogger st := Scene.accounts_steady.awaitUntil _ _ st
  unstarted failed := (start_error.mp failed).2 ▸ .refl _
  started started := startDriver_view (start_ok.mp started)
  nextLine s := nextLine_view _ s
  ready call s := ready_view s.stage call
  perform call s := perform_view s.stage call
  note note s := log_view s.stage note
  write bytes s := Scene.accounts_steady.send _ _ _ s.stage
  hangUp _ := rfl
  stop failed s := stop_view script failed s

end PartyBridge.Session
