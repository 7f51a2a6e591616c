import PartyBridge.Proofs.Session.Faithful
import PartyBridge.Proofs.Session.Surroundings

/-!
# Sessions on a stage and their parties

A stage is a faithful venue (`stage_faithful`): whatever a session or a driver does there, those at work in
its surroundings and the driver do what the parties of a session may do. A session that has just been
launched on a stage shows its parties at their start (`launch_begun`).
-/

namespace PartyBridge.Session
open Engine EngineOutput Ensemble

variable {marker : List Char}

/-- The parties of a session are as far as those on a stage. -/
structure Stage.Shown (marker : List Char) (st : Stage) (e : Ensemble.State Empty) : Prop where
  scene : st.scene.Shown marker e
  timeout : e.bridge.timeout = st.bridge.timeout
  received : e.bridge.stats.received = st.bridge.stats.received

/-- What happens on a stage is a run of the parties in which the driver receives nothing. -/
def Stage.Goes (marker : List Char) (st st' : Stage) : Prop :=
  ∀ e, st.Shown marker e → ∃ e', Follows marker e [] e' ∧ st'.Shown marker e'

theorem Stage.Goes.of_proceeds {st st' : Stage} (proceeds : Proceeds marker st.scene st'.scene)
    (timeout : st'.bridge.timeout = st.bridge.timeout)
    (received : st'.bridge.stats.received = st.bridge.stats.received) : Stage.Goes marker st st' := by
  intro e shown
  obtain ⟨e', continues, shown', bridge, got⟩ := proceeds e shown.scene
  refine ⟨e', ⟨continues, by simp [Ensemble.State.received, got]⟩, shown', ?_, ?_⟩
  · rw [bridge, timeout, shown.timeout]
  · rw [bridge, received, shown.received]

theorem closeInput_kept (b : Bridge) :
    b.closeInput.timeout = b.timeout ∧ b.closeInput.stats = b.stats := by
  unfold Bridge.closeInput
  split <;> exact ⟨rfl, rfl⟩

theorem closeInput_goes (st : Stage) : Stage.Goes marker st st.closeInput := by
  obtain ⟨timeout, stats⟩ := closeInput_kept st.bridge
  refine .of_proceeds ?_ timeout (congrArg BridgeStats.received stats)
  unfold Stage.closeInput
  cases st.inlet <;> exact .of_same rfl rfl rfl

theorem endEngine_proceeds (s : Scene) : Proceeds marker s s.endEngine :=
  .of_same rfl rfl (by simp [Scene.endEngine, Function.comp_def])

theorem dismiss_proceeds (s : Scene) : Proceeds marker s s.dismiss.1 := by
  have told : Proceeds marker s
      { s with watch := s.watch.map fun w => { w with released := true } } :=
    .of_same rfl rfl (by simp [Function.comp_def])
  exact told.trans ((proceeds_steady marker).awaitUntil _ _)

theorem does_goes {st st' : Stage} {a : Option Act} (does : Stage.venue.Does st a st') :
    Stage.Goes marker st st' := by
  cases does with
  | log note => exact .of_proceeds (.of_same rfl rfl rfl) rfl rfl
  | closeInput => exact closeInput_goes st
  | awaitDrain limit => exact .of_proceeds ((proceeds_steady marker).awaitFor _ _ _) rfl rfl
  | endEngine => exact .of_proceeds (endEngine_proceeds _) rfl rfl
  | stopDrain =>
    exact .of_proceeds (toDrain_proceeds _ _ fun feeding => feeding.shutdown) rfl rfl
  | leaveDrain => exact .of_proceeds (toDrain_proceeds _ _ fun feeding => feeding.detach) rfl rfl
  | joinDrain => exact .of_proceeds ((proceeds_steady marker).awaitUntil _ _) rfl rfl
  | dismiss => exact .of_proceeds (dismiss_proceeds _) rfl rfl
  | joinLogger => exact .of_proceeds ((proceeds_steady marker).awaitUntil _ _) rfl rfl

theorem joinDrain_finished {st : Stage} {e : Ensemble.State Empty} {stats : DrainStats}
    (counts : (Stage.venue.joinDrain st).2 = .ok stats)
    (shown : (Stage.venue.joinDrain st).1.Shown marker e) :
    e.place = .finished ∧ e.drain.stats = stats := by
  obtain ⟨d, drains, -, feeding⟩ := shown.scene.drain
  simp only [Stage.venue, Stage.onScene, Stage.withScene, Scene.joinDrain] at counts drains
  generalize st.scene.awaitUntil Scene.drained = s at counts drains
  split at counts
  · rename_i drained
    have finished : d.feed.finished = true := by simpa [Scene.drained, drains] using drained
    cases counts
    simp only [Scene.drainStats, drains, Option.elim_some]
    exact ⟨by simpa [Drainer.on, finished] using feeding.place, feeding.stats⟩
  · cases counts

/-! ### Calls -/

/-- Only a receive has a value for its reply. -/
theorem perform_silent (b : Bridge) {call : Call} (other : call ≠ .receive) :
    (b.perform call).2.bind value? = none := by
  cases call with
  | receive => contradiction
  | input label =>
    simp only [Bridge.perform]
    cases (b.input label).2 <;> rfl
  | send text =>
    simp only [Bridge.perform]
    cases (b.send text).2 <;> rfl
  | output text =>
    simp only [Bridge.perform]
    cases (b.output text).2 <;> rfl

def Stage.called (st : Stage) : Bridge :=
  { st.bridge with queue := st.scene.queue }

def Stage.after (st : Stage) (bridge : Bridge) : Stage :=
  { st with
    scene := { st.scene.logAll bridge.notes with queue := bridge.queue }
    bridge := { bridge with notes := [] } }

theorem callNow_eq (st : Stage) (call : Call) :
    st.callNow call = (st.after (st.called.perform call).1, (st.called.perform call).2) := by
  unfold Stage.callNow Stage.called
  generalize Bridge.perform _ call = result
  rfl

theorem callNow_other (st : Stage) {call : Call} (other : call ≠ .receive) :
    Stage.Goes marker st (st.callNow call).1 := by
  have spares := st.called.perform_spares other
  have timeout := st.called.perform_timeout call
  rw [callNow_eq]
  generalize (st.called.perform call).1 = bridge at spares timeout
  exact .of_proceeds (.of_same rfl spares.queue rfl) timeout spares.received

/-- A receive that has nothing left to wait for. -/
theorem callNow_receive {st : Stage} {e : Ensemble.State Empty} (shown : st.Shown marker e) :
    ∃ e', Follows marker e ((st.callNow .receive).2.bind value?).toList e' ∧
      (st.callNow .receive).1.Shown marker e' := by
  obtain ⟨⟨⟨d, drains, same, feeding⟩, watch⟩, timeout, received⟩ := shown
  obtain ⟨clock, idle⟩ := feeding.idle
  have counted := st.called.receive_counted
  have kept := st.called.receive_timeout
  have performed : st.callNow .receive =
      (st.after st.called.receive.1, st.called.receive.2.map fun r => r.map .value) := rfl
  rw [performed]
  -- either the look at the queue settles the receive, or it would have to wait, and nothing has happened
  rcases st.called.receive_finds clock with ⟨nanos, result, left, found, taken⟩ | ⟨unchanged, waits⟩
  · have told : st.called.receive.2 = some (result.mapError .ofReceive) := st.bridge.receive_look found
    rw [show st.called.timeout = e.bridge.timeout from timeout.symm] at found
    have moved : Leads marker e _ := receive_undisturbed nanos result left idle found
    have counted' : e.receiving.1.stats.received = _ := Bridge.receive_counted _
    have kept' : e.receiving.1.timeout = _ := Bridge.receive_timeout _
    have told' : e.receiving.2 = some (result.mapError .ofReceive) := by
      rw [State.receiving, idle]
      exact e.bridge.receive_look found
    refine ⟨_, ⟨.of_leads moved, ?_⟩, ⟨⟨⟨d, drains, same, ?_⟩, watch⟩, ?_, ?_⟩⟩
    · simp only [State.received, List.filterMap_append, told, told']
      cases result <;> rfl
    · exact ⟨⟨feeding.stop, feeding.stats, ⟨clock + nanos, by rw [← taken]; rfl⟩, feeding.reads,
        feeding.ready⟩, feeding.place⟩
    · exact (kept'.trans timeout).trans kept.symm
    · calc e.receiving.1.stats.received
          = e.bridge.stats.received + (e.receiving.2.toList.filterMap Except.toOption).length := counted'
        _ = st.bridge.stats.received +
            (st.called.receive.2.toList.filterMap Except.toOption).length := by rw [received, told, told']
        _ = st.called.receive.1.stats.received := counted.symm
  · refine ⟨e, ?_, ⟨⟨⟨d, drains, same, ?_⟩, watch⟩, ?_, ?_⟩⟩
    · rw [waits]
      exact .refl e
    · rw [unchanged]
      exact feeding
    · rw [unchanged]
      exact timeout
    · rw [unchanged]
      exact received

theorem pourInto_goes (st : Stage) (pipe : Nat) (text : String) :
    Stage.Goes marker st (st.pourInto pipe text) :=
  .of_proceeds ((proceeds_steady marker).send st.scene pipe (Utf8.encode (text ++ "\n"))) rfl rfl

/-- What is done before a call is made. -/
def Stage.ready (st : Stage) (call : Call) : Stage :=
  match call, st.inlet with
  | .send text, some pipe => if st.bridge.engineOpen then st.pourInto pipe text else st
  | .receive, _ => { st with scene := (st.scene.awaitFor st.bridge.timeout receivable).1 }
  | _, _ => st

theorem ready_goes (st : Stage) (call : Call) : Stage.Goes marker st (st.ready call) := by
  have stays : Stage.Goes marker st st := .of_proceeds (.refl _) rfl rfl
  unfold Stage.ready
  split
  · split
    · exact pourInto_goes _ _ _
    · exact stays
  · exact .of_proceeds ((proceeds_steady marker).awaitFor _ _ _) rfl rfl
  · exact stays

theorem callNow_follows {st : Stage} {e : Ensemble.State Empty} (call : Call)
    (shown : st.Shown marker e) :
    ∃ e', Follows marker e ((st.callNow call).2.bind value?).toList e' ∧
      (st.callNow call).1.Shown marker e' := by
  by_cases receives : call = .receive
  · subst receives
    exact callNow_receive shown
  · obtain ⟨e', follows, shown'⟩ := callNow_other st receives e shown
    refine ⟨e', ?_, shown'⟩
    rw [callNow_eq, perform_silent _ receives]
    exact follows

theorem perform_eq (st : Stage) (call : Call) :
    st.perform call =
      (((st.ready call).callNow call).2.getD (.error (.engineTerminated .cancelled)),
        ((st.ready call).callNow call).1) := by
  unfold Stage.perform Stage.ready
  dsimp only
  generalize Stage.callNow _ call = called
  obtain ⟨st', result⟩ := called
  cases result <;> rfl

theorem perform_follows {st : Stage} {e : Ensemble.State Empty} (call : Call)
    (shown : st.Shown marker e) :
    ∃ e', Follows marker e (value? (st.perform call).1).toList e' ∧
      (st.perform call).2.Shown marker e' := by
  obtain ⟨e', waited, shown⟩ := ready_goes st call e shown
  obtain ⟨e'', made, shown⟩ := callNow_follows call shown
  have all := waited.trans made
  rw [perform_eq]
  refine ⟨e'', ?_, shown⟩
  cases result : ((st.ready call).callNow call).2 <;> simpa [result, value?] using all

theorem stage_faithful (marker : List Char) :
    Faithful Stage.venue (fun call st => st.perform call) marker (Stage.Shown marker) where
  does := fun does shown => does_goes does _ shown
  makes := perform_follows
  joins := joinDrain_finished
  counts := fun shown => shown.received.symm

/-! ### Launches -/

/-- A stage on which no session has been yet: the queue is new and nothing has been received. -/
structure Stage.Fresh (st : Stage) : Prop where
  queue : st.scene.queue = .empty
  received : st.bridge.stats.received = 0

theorem launch_begun {stage : Stage} {command : Invocation} {choices : Choices} {l : Live Stage}
    (fresh : stage.Fresh) (launched : Live.launch stage command choices = .ok l) :
    ∃ pid, Begun Stage.venue choices.marker.toList (Stage.Shown choices.marker.toList) pid
      (nanos choices.exitCloseGrace) l.stage.bridge l := by
  unfold Live.launch at launched
  split at launched
  · cases launched
  · rename_i machine engine started
    cases launched
    refine ⟨engine.pid, _, _, _, _, _, rfl, ⟨⟨⟨_, rfl, rfl, ?_⟩, ⟨_, rfl, rfl⟩⟩, rfl, rfl⟩,
      ⟨.of_leads ⟨_, check_undisturbed rfl rfl rfl⟩, rfl⟩, fresh.received⟩
    exact ⟨⟨rfl, rfl, ⟨0, congrArg (Handoff.idle · 0) fresh.queue.symm⟩, rfl, rfl⟩, rfl⟩

/-- A session that has not left its drain to itself has its report from its venue. -/
theorem finish_reported {l : Live Stage} (kept : l.finish.2.detached = false) :
    (Stage.venue.finish l).2 = .ok l.finish.2 ∧ (Stage.venue.finish l).1 = l.finish.1 := by
  unfold Live.finish at kept ⊢
  generalize Stage.venue.finish l = result at kept ⊢
  obtain ⟨l', report⟩ := result
  cases report with
  | ok report => exact ⟨rfl, rfl⟩
  | error lost => cases kept

end PartyBridge.Session
