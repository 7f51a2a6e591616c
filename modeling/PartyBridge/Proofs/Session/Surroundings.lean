import PartyBridge.Proofs.Engine.Termination
import PartyBridge.Proofs.EngineOutput.Feeding
import PartyBridge.Proofs.Session.Turns
import PartyBridge.Session.Lifecycle

/-!
# The surroundings of a session and its parties

The drain and the supervisor that take their turns in the surroundings of a session are two of the
parties of a session, and their turns are a run of the parties (`Proceeds`).
-/

namespace PartyBridge.Engine.Supervisor

def bare (s : Supervisor) : Supervisor :=
  { s with notes := [] }

theorem ask_bare (s : Supervisor) : s.bare.ask = s.ask := rfl

theorem answer_bare (s : Supervisor) (a : Answer) : (s.bare.answer a).bare = (s.answer a).bare := by
  obtain ⟨pid, grace, phase, notes⟩ := s
  unfold bare answer
  dsimp only
  split
  case h_8 exit first => cases first <;> rfl
  case h_11 fault => cases fault <;> rfl
  case h_19 since fault other => cases fault <;> rfl
  case h_17 since now => by_cases elapsed : since + killDelay ≤ now <;> simp only [elapsed] <;> rfl
  all_goals rfl

end PartyBridge.Engine.Supervisor

namespace PartyBridge.Session
open Engine EngineOutput Ensemble

variable {marker : List Char}

/-- What the drain is fed, with the queue as it is now. -/
def Drainer.on (d : Drainer) (queue : ValueQueue) : Feed :=
  { d.feed with drain := { d.feed.drain with queue } }

/-- The parties of a session are as far as the drain and the supervisor in its surroundings. -/
structure Scene.Shown (marker : List Char) (s : Scene) (e : Ensemble.State Empty) : Prop where
  drain : ∃ d, s.drainer = some d ∧ d.marker = marker ∧ Feeding (d.on s.queue) e
  watch : ∃ w, s.watch = some w ∧ e.supervisor.bare = w.supervisor.bare

/-- What happens in the surroundings is a run of the parties without the driver. -/
def Proceeds (marker : List Char) (s s' : Scene) : Prop :=
  ∀ e, s.Shown marker e → ∃ e', Continues marker e e' ∧ s'.Shown marker e' ∧
    e'.bridge = e.bridge ∧ e'.got = e.got

theorem Proceeds.trans {s s' s'' : Scene} (first : Proceeds marker s s')
    (second : Proceeds marker s' s'') : Proceeds marker s s'' := by
  intro e shown
  obtain ⟨e', continues, shown', bridge, got⟩ := first e shown
  obtain ⟨e'', continues', shown'', bridge', got'⟩ := second e' shown'
  exact ⟨e'', continues.trans continues', shown'', bridge'.trans bridge, got'.trans got⟩

/-- The drain and the supervisor are where they were, and so is the queue. -/
theorem Proceeds.of_same {s s' : Scene} (drainer : s'.drainer = s.drainer) (queue : s'.queue = s.queue)
    (watch : s'.watch.map (·.supervisor.bare) = s.watch.map (·.supervisor.bare)) :
    Proceeds marker s s' := by
  intro e shown
  obtain ⟨d, drains, same, feeding⟩ := shown.drain
  obtain ⟨w, watches, bare⟩ := shown.watch
  rw [watches] at watch
  obtain ⟨w', watches', bare'⟩ := Option.map_eq_some_iff.mp watch
  exact ⟨e, .refl e, ⟨⟨d, drainer.trans drains, same, queue ▸ feeding⟩,
    ⟨w', watches', bare.trans bare'.symm⟩⟩, rfl, rfl⟩

theorem Proceeds.refl (s : Scene) : Proceeds marker s s :=
  .of_same rfl rfl rfl

/-- The drain looks for the marker that it was given. -/
theorem Proceeds.of_marker {s s' : Scene}
    (proceeds : ∀ d, s.drainer = some d → d.marker = marker → Proceeds marker s s') :
    Proceeds marker s s' := by
  intro e shown
  obtain ⟨d, drains, same, -⟩ := shown.drain
  exact proceeds d drains same e shown

/-! ### The drain -/

theorem withFeed_proceeds {s : Scene} {d : Drainer} (drains : s.drainer = some d) (work : Feed → Feed)
    (works : ∀ e, Feeding (d.on s.queue) e → Fed marker e (work (d.on s.queue))) :
    Proceeds marker s (s.withFeed d work) := by
  intro e shown
  obtain ⟨d', drains', same, feeding⟩ := shown.drain
  cases drains.symm.trans drains'
  obtain ⟨w, watches, bare⟩ := shown.watch
  obtain ⟨e', continues, fed, aside⟩ := works e feeding
  refine ⟨e', continues, ⟨⟨_, rfl, same, ?_⟩, ⟨w, watches, aside.supervisor ▸ bare⟩⟩, aside.bridge,
    aside.got⟩
  exact ⟨⟨fed.stop, fed.stats, fed.idle, fed.reads, fed.ready⟩, fed.place⟩

theorem toDrain_proceeds (s : Scene) (work : Feed → Feed)
    (works : ∀ {f e}, Feeding f e → Fed marker e (work f)) : Proceeds marker s (s.toDrain work) := by
  unfold Scene.toDrain
  split
  · rename_i d drains
    exact withFeed_proceeds drains work fun e => works
  · exact .refl s

theorem release_proceeds (s : Scene) (fd : Host.Fd) : Proceeds marker s (s.release fd) :=
  .of_same rfl rfl rfl

theorem drainTurn_proceeds (s : Scene) : Proceeds marker s s.drainTurn.1 := by
  unfold Scene.drainTurn
  split
  · exact .refl s
  · rename_i d drains
    split
    · exact .refl s
    · refine .of_marker fun d' drains' same => ?_
      cases drains.symm.trans drains'
      subst same
      -- the machine has changed, which is nothing to the drain, and the drain works
      have works (machine : Host.Machine) (work : Feed → Feed)
          (works : ∀ {f e}, Feeding f e → Fed d.marker e (work f)) :
          Proceeds d.marker s ({ s with machine }.withFeed d work) := by
        have moved : Proceeds d.marker s { s with machine } := .of_same rfl rfl rfl
        exact moved.trans (withFeed_proceeds (s := { s with machine }) drains work fun e => works)
      have closes (s : Scene) (finished : Bool) :
          Proceeds d.marker s (if finished then s.release (.readEnd d.pipe) else s) := by
        cases finished with
        | true => exact release_proceeds _ _
        | false => exact .refl s
      dsimp only
      split
      · exact (works _ (fun feed => (feed.bytes d.marker _).1) fun feeding => feeding.bytes _).trans
          (closes _ _)
      · exact .refl s
      · exact (works _ (fun feed => feed.eof d.marker) fun feeding => feeding.eof).trans (closes _ _)

/-! ### The supervisor -/

theorem act_leads {e : Ensemble.State Empty} {s s' : Supervision.State} {a : Option (Ask × Answer)}
    {clock : Nat} (act : Supervision.Act s a s') (bare : e.supervisor.bare = s.supervisor.bare)
    (idle : e.handoff = Handoff.idle s.queue clock) :
    ∃ supervisor, supervisor.bare = s'.supervisor.bare ∧
      Leads marker e { e with handoff := Handoff.idle s'.queue clock, supervisor } := by
  -- the two supervisors differ in their notes only, and these are never asked for
  have ask : e.supervisor.ask = s.supervisor.ask := by
    rw [← e.supervisor.ask_bare, bare, Supervisor.ask_bare]
  have answer : ∀ a, (e.supervisor.answer a).bare = (s.supervisor.answer a).bare := by
    intro a
    rw [← Supervisor.answer_bare, bare, Supervisor.answer_bare]
  have away : e.handoff.phase (.inl .supervisor) = .away := by
    rw [idle]
    rfl
  cases act with
  | @answered asked given asks fits other =>
    refine ⟨_, answer given, ?_⟩
    rw [← idle]
    refine ⟨_, Run.refl.quiet (.hear given away ?_)⟩
    intro exit same
    exact other exit (Option.some.inj (asks.symm.trans (ask.symm.trans same)))
  | @closed exit queue first asks done =>
    refine ⟨_, answer (.closed first), ?_⟩
    obtain ⟨told, close, back⟩ := Handoff.idle_close s.queue clock (.inl .supervisor : Party Empty)
      (.engineExited exit)
    rw [← idle, done] at close
    rw [done] at back
    have released : Run (Ensemble.Step marker) e _
        { e with handoff := told, supervisor := e.supervisor.answer (.closed first) } :=
      Run.refl.event (.release (ask.trans asks) close)
    exact ⟨_, released.trans (run_quiet back)⟩
  | noted => exact ⟨e.supervisor, bare, by rw [← idle]; exact ⟨[], .refl⟩⟩

theorem acts_lead {e : Ensemble.State Empty} {s s' : Supervision.State} {h : List (Ask × Answer)}
    {clock : Nat} (run : Run Supervision.Act s h s') (bare : e.supervisor.bare = s.supervisor.bare)
    (idle : e.handoff = Handoff.idle s.queue clock) :
    ∃ supervisor, supervisor.bare = s'.supervisor.bare ∧
      Leads marker e { e with handoff := Handoff.idle s'.queue clock, supervisor } := by
  induction run with
  | refl => exact ⟨e.supervisor, bare, by rw [← idle]; exact ⟨[], .refl⟩⟩
  | tail _ act ih =>
    obtain ⟨supervisor, bare, leads⟩ := ih
    obtain ⟨supervisor', bare', leads'⟩ := act_leads (e := { e with handoff := _, supervisor }) act bare rfl
    exact ⟨supervisor', bare', leads.trans leads'⟩

theorem watchTurn_proceeds (fuel : Nat) (moved : Bool) (s : Scene) :
    Proceeds marker s (s.watchTurn fuel moved).1 := by
  intro e shown
  obtain ⟨d, drains, same, feeding⟩ := shown.drain
  obtain ⟨w, watches, bare⟩ := shown.watch
  obtain ⟨clock, idle⟩ := feeding.idle
  obtain ⟨drainer, h, w', watches', run⟩ := Supervision.watchTurn_run fuel moved watches
  obtain ⟨supervisor, bare', (leads : Leads marker e _)⟩ := acts_lead run bare idle
  refine ⟨_, .of_leads leads, ⟨⟨d, drainer.trans drains, same, ?_⟩, ⟨w', watches', bare'⟩⟩, rfl, rfl⟩
  exact ⟨⟨feeding.stop, feeding.stats, ⟨clock, rfl⟩, feeding.reads, feeding.ready⟩, feeding.place⟩

/-! ### Everybody's turns -/

theorem logTurn_proceeds (s : Scene) : Proceeds marker s s.logTurn.1 := by
  unfold Scene.logTurn
  split
  · exact .refl s
  · split
    · exact .refl s
    · split <;> exact .of_same rfl rfl rfl

/-- Whoever waits, the parties run without the driver meanwhile. -/
theorem proceeds_steady (marker : List Char) : Scene.Steady (Proceeds marker) where
  refl := .refl
  trans first second := first.trans second
  machine _ _ := .of_same rfl rfl rfl
  taps _ _ := .of_same rfl rfl rfl
  drainTurn := drainTurn_proceeds
  logTurn := logTurn_proceeds
  watchTurn := watchTurn_proceeds

end PartyBridge.Session
