import PartyBridge.Proofs.Run
import PartyBridge.Session.Course

/-!
# What a session does at its venue

Whatever the venue, a session changes it only by what a venue offers, and what it does there is a run of
such acts. `drive_does` says when the driver runs, `finish_ending` what is done to bring a session to its
end and what is reported then, and `conduct_recorded` what a whole session does.
-/

namespace PartyBridge.Session

open EngineOutput Journal

/-- What a session does besides writing notes. -/
inductive Act where
  | drive
  | closeInput
  | awaitDrain
  | endEngine
  | stopDrain
  | leaveDrain
  | joinDrain
  | dismiss
  | joinLogger
deriving Repr, DecidableEq

namespace Venue

variable {σ ρ : Type} (v : Venue σ)

/-- The venue does something for a session. -/
inductive Does : σ → Option Act → σ → Prop where
  | log (note : Note) (s : σ) : Does s none (v.log note s)
  | closeInput (s : σ) : Does s (some .closeInput) (v.closeInput s)
  | awaitDrain (limit : Nat) (s : σ) : Does s (some .awaitDrain) (v.awaitDrain limit s).1
  | endEngine (s : σ) : Does s (some .endEngine) (v.endEngine s)
  | stopDrain (s : σ) : Does s (some .stopDrain) (v.stopDrain s)
  | leaveDrain (s : σ) : Does s (some .leaveDrain) (v.leaveDrain s)
  | joinDrain (s : σ) : Does s (some .joinDrain) (v.joinDrain s).1
  | dismiss (s : σ) : Does s (some .dismiss) (v.dismiss s).1
  | joinLogger (s : σ) : Does s (some .joinLogger) (v.joinLogger s)

variable {v}

theorem note_does (l : Live σ) (text : String) : Run v.Does l.stage [] (v.note l text).stage :=
  Run.refl.quiet (.log _ _)

theorem enter_does (l : Live σ) (next : State) : Run v.Does l.stage [] (v.enter l next).stage :=
  note_does ..

/-- The driver runs once, on what the stage is after some notes, and only notes are written after it. -/
theorem drive_does (l : Live σ) (name : String) (driver : σ → σ × ρ × Except Failure Unit) :
    ∃ s, Run v.Does l.stage [] s ∧ Run v.Does (driver s).1 [] (v.drive l name driver).1.stage ∧
      (v.drive l name driver).2.1 = (driver s).2.1 ∧
      (v.drive l name driver).2.2 =
        (driver s).2.2.mapError (·.within ("driver " ++ name ++ " failed")) ∧
      (v.drive l name driver).1.history = .driverDone :: .driverExecuting :: l.history := by
  refine ⟨_, enter_does l .driverExecuting, ?_⟩
  unfold drive
  dsimp only
  generalize ran : driver (v.enter l .driverExecuting).stage = result
  obtain ⟨stage, told, outcome⟩ := result
  cases outcome with
  | ok =>
    exact ⟨enter_does { v.enter l .driverExecuting with stage } .driverDone, rfl, rfl, rfl⟩
  | error failure =>
    exact ⟨(note_does { v.enter l .driverExecuting with stage } _).trans (enter_does _ .driverDone),
      rfl, rfl, rfl⟩

/-! ### The end -/

/-- How a drain may be waited for. -/
def patience : List (List Act) :=
  [[], [.awaitDrain], [.awaitDrain, .endEngine, .stopDrain, .awaitDrain]]

theorem settle_does (l : Live σ) :
    ∃ waits ∈ patience, Run v.Does l.stage waits (v.settle l).1.stage ∧
      (v.settle l).1.history = l.history := by
  unfold settle
  cases l.shutdownGrace with
  | none => exact ⟨[], by simp [patience], .refl, rfl⟩
  | some grace =>
    have waited := Run.refl.event (Does.awaitDrain (v := v) (nanos grace) l.stage)
    dsimp only
    generalize v.awaitDrain (nanos grace) l.stage = result at waited ⊢
    obtain ⟨stage, finished⟩ := result
    cases finished with
    | true => exact ⟨_, by simp [patience], waited, rfl⟩
    | false =>
      refine ⟨[.awaitDrain, .endEngine, .stopDrain, .awaitDrain], by simp [patience], ?_, rfl⟩
      have noted := waited.trans (note_does { l with stage } ("Engine output still open " ++
        Text.decimalNat grace ++ "ms after the driver finished; terminating engine"))
      exact ((noted.event (.endEngine _)).event (.stopDrain _)).event (.awaitDrain _ _)

theorem collect_stuck (l : Live σ) :
    Run v.Does l.stage [.leaveDrain] (v.collect l true).1.stage ∧ (v.collect l true).2 = .ok .zero :=
  ⟨(note_does l _).event (.leaveDrain _), rfl⟩

theorem collect_joined (l : Live σ) :
    v.collect l false = ({ l with stage := (v.joinDrain l.stage).1 }, (v.joinDrain l.stage).2) :=
  rfl

theorem conclude_does (l : Live σ) (stuck : Bool) (drain : DrainStats) (exit : Option Engine.Exit) :
    ∃ s, Run v.Does l.stage (if stuck then [] else [.joinLogger]) s ∧
      Run v.Does s [] (v.conclude l stuck drain exit).1.stage ∧
      (v.conclude l stuck drain exit).2 =
        ⟨drain, v.stats s, exit, stuck, (.terminated :: l.history).reverse⟩ := by
  cases stuck with
  | true => exact ⟨_, enter_does l .terminated, note_does .., rfl⟩
  | false =>
    have joined := Run.refl.event (Does.joinLogger (v := v) l.stage)
    exact ⟨_, joined.trans (enter_does { l with stage := v.joinLogger l.stage } .terminated),
      note_does .., rfl⟩

variable (v) in
/-- How a session ends that has waited for its drain: the stage it finds, what it has been through, what
it does, what comes of it, and the stage it leaves. -/
inductive Ending (s : σ) (history : List State) : List Act → Except String Report → σ → Prop where
  | left {report : Report} {s' : σ} (run : Run v.Does s [.leaveDrain, .dismiss] s')
      (detached : report.detached = true) :
      Ending s history [.leaveDrain, .dismiss] (.ok report) s'
  | lost {reason : String} {s' : σ} (uncounted : (v.joinDrain s).2 = .error reason)
      (run : Run v.Does (v.joinDrain s).1 [.dismiss] s') :
      Ending s history [.joinDrain, .dismiss] (.error reason) s'
  | joined {report : Report} {t s' : σ} (counts : (v.joinDrain s).2 = .ok report.drain)
      (run : Run v.Does (v.joinDrain s).1 [.dismiss, .joinLogger] t) (stats : report.bridge = v.stats t)
      (noted : Run v.Does t [] s') (past : report.history = history) :
      Ending s history [.joinDrain, .dismiss, .joinLogger] (.ok report) s'

theorem release_ending (l : Live σ) (stuck : Bool) :
    ∃ acts, v.Ending l.stage (.terminated :: l.history).reverse acts (v.release l stuck).2
      (v.release l stuck).1.stage := by
  unfold release
  cases stuck with
  | true =>
    obtain ⟨left, zero⟩ := collect_stuck (v := v) l
    generalize v.collect l true = collected at left zero ⊢
    obtain ⟨l', drain⟩ := collected
    cases zero
    have dismissed := left.event (.dismiss l'.stage)
    obtain ⟨s, run, noted, report⟩ := conclude_does (v := v)
      { l' with stage := (v.dismiss l'.stage).1 } true .zero (v.dismiss l'.stage).2
    exact ⟨_, .left (dismissed.trans (run.trans noted)) (congrArg Report.detached report)⟩
  | false =>
    rw [collect_joined]
    have dismissed := Run.refl.event (Does.dismiss (v := v) (v.joinDrain l.stage).1)
    cases counts : (v.joinDrain l.stage).2 with
    | error reason => exact ⟨_, .lost counts dismissed⟩
    | ok drain =>
      obtain ⟨s, run, noted, report⟩ := conclude_does (v := v)
        { l with stage := (v.dismiss (v.joinDrain l.stage).1).1 } false drain
        (v.dismiss (v.joinDrain l.stage).1).2
      exact ⟨_, .joined (counts.trans (congrArg (Except.ok ∘ Report.drain) report.symm)) (dismissed.trans run)
        (congrArg Report.bridge report) noted (congrArg Report.history report)⟩

theorem finish_ending (l : Live σ) :
    ∃ waits ∈ patience, ∃ s acts, Run v.Does l.stage (.closeInput :: waits) s ∧
      v.Ending s (l.history.reverse ++ [.awaitingDrainerJoin, .terminated]) acts (v.finish l).2
        (v.finish l).1.stage := by
  have input := (Run.refl.event (Does.closeInput (v := v) l.stage)).trans
    (enter_does { l with stage := v.closeInput l.stage } .awaitingDrainerJoin)
  obtain ⟨waits, order, waited, history⟩ := settle_does (v := v)
    (v.enter { l with stage := v.closeInput l.stage } .awaitingDrainerJoin)
  have waited := input.trans waited
  refine ⟨waits, order, ?_⟩
  unfold finish
  dsimp only
  generalize v.settle (v.enter { l with stage := v.closeInput l.stage } .awaitingDrainerJoin) = settled
    at waited history ⊢
  obtain ⟨l', stuck⟩ := settled
  have told : (State.terminated :: l'.history).reverse =
      l.history.reverse ++ [.awaitingDrainerJoin, .terminated] := by
    simp only at history
    simp [history, enter, note, Live.emit]
  obtain ⟨acts, ending⟩ := release_ending (v := v) l' stuck
  rw [told] at ending
  exact ⟨l'.stage, acts, waited, ending⟩

theorem Ending.run {s s' : σ} {history : List State} {acts : List Act} {result : Except String Report}
    (ending : v.Ending s history acts result s') : Run v.Does s acts s' := by
  cases ending with
  | left run detached => exact run
  | lost uncounted run => exact (Run.refl.event (.joinDrain s)).trans run
  | joined counts run stats noted past =>
    simpa using ((Run.refl.event (.joinDrain s)).trans run).trans noted

/-! ### Whole sessions -/

/-- How a drain and an engine may be brought to their end. -/
def endings : List (List Act) :=
  [[.leaveDrain, .dismiss], [.joinDrain, .dismiss], [.joinDrain, .dismiss, .joinLogger]]

theorem Ending.mem_endings {s s' : σ} {history : List State} {acts : List Act}
    {result : Except String Report} (ending : v.Ending s history acts result s') : acts ∈ endings := by
  cases ending <;> simp [endings]

/-- A session that has an engine runs its driver, and is then brought to its end. -/
theorem conduct_does (stage : σ) (l : Live σ) (name : String)
    (driver : σ → σ × ρ × Except Failure Unit) :
    ∃ s, Run v.Does l.stage [] s ∧
      (∃ waits ∈ patience, ∃ ends ∈ endings,
        Run v.Does (driver s).1 (.closeInput :: waits ++ ends)
          (v.conduct stage (.ok l) name driver).stage) ∧
      (v.conduct stage (.ok l) name driver).told = some (driver s).2.1 ∧
      (v.conduct stage (.ok l) name driver).result =
        ((driver s).2.2.mapError (·.within ("driver " ++ name ++ " failed"))).bind fun _ =>
          (v.finish (v.drive l name driver).1).2.mapError unfinished := by
  obtain ⟨s, noted, drove, told, outcome, -⟩ := drive_does (v := v) l name driver
  obtain ⟨waits, waiting, s', ends, waited, ending⟩ := finish_ending (v := v) (v.drive l name driver).1
  have finished := (drove.trans waited).trans ending.run
  refine ⟨s, noted, ⟨waits, waiting, ends, ending.mem_endings, ?_⟩, ?_, ?_⟩
  · unfold conduct
    dsimp only
    split
    · exact finished
    · exact finished
    · simpa using finished.trans (note_does _ _)
  · rw [← told]
    unfold conduct
    dsimp only
    split <;> rfl
  · rw [← outcome]
    unfold conduct
    dsimp only
    split
    · rename_i ran
      rw [ran]
      rfl
    · rename_i failed reported
      rw [failed]
      rfl
    · rename_i failed lost
      rw [failed]
      rfl

/-! ### Sessions on record -/

/-- The venue with a record of what is done there. -/
def recorded (v : Venue σ) : Venue (σ × List Act) where
  log note s := (v.log note s.1, s.2)
  clock s := v.clock s.1
  stats s := v.stats s.1
  closeInput s := (v.closeInput s.1, s.2 ++ [.closeInput])
  awaitDrain limit s :=
    let (stage, finished) := v.awaitDrain limit s.1
    ((stage, s.2 ++ [.awaitDrain]), finished)
  endEngine s := (v.endEngine s.1, s.2 ++ [.endEngine])
  stopDrain s := (v.stopDrain s.1, s.2 ++ [.stopDrain])
  leaveDrain s := (v.leaveDrain s.1, s.2 ++ [.leaveDrain])
  joinDrain s :=
    let (stage, drain) := v.joinDrain s.1
    ((stage, s.2 ++ [.joinDrain]), drain)
  dismiss s :=
    let (stage, exit) := v.dismiss s.1
    ((stage, s.2 ++ [.dismiss]), exit)
  joinLogger s := (v.joinLogger s.1, s.2 ++ [.joinLogger])

def recordedDriver (driver : σ → σ × ρ × Except Failure Unit) (s : σ × List Act) :
    (σ × List Act) × ρ × Except Failure Unit :=
  let (stage, told, outcome) := driver s.1
  ((stage, s.2 ++ [.drive]), told, outcome)

theorem recorded_does {s s' : σ × List Act} {acts : List Act} (run : Run v.recorded.Does s acts s') :
    s'.2 = s.2 ++ acts := by
  induction run with
  | refl => simp
  | tail _ step ih => cases step <;> simp [recorded, ih]

end Venue

def Live.onRecord {σ : Type} (l : Live σ) : Live (σ × List Act) :=
  ⟨(l.stage, []), l.state, l.history, l.startedAt, l.shutdownGrace, l.trace⟩

def Live.offRecord {σ : Type} (l : Live (σ × List Act)) : Live σ :=
  ⟨l.stage.1, l.state, l.history, l.startedAt, l.shutdownGrace, l.trace⟩

namespace Venue

variable {σ ρ : Type} (v : Venue σ)

theorem recorded_drive (l : Live (σ × List Act)) (name : String)
    (driver : σ → σ × ρ × Except Failure Unit) :
    ((v.recorded.drive l name (recordedDriver driver)).1.offRecord,
      (v.recorded.drive l name (recordedDriver driver)).2) = v.drive l.offRecord name driver := by
  have same : (v.recorded.enter l .driverExecuting).stage.1 =
      (v.enter l.offRecord .driverExecuting).stage := rfl
  simp only [drive, recordedDriver, same]
  generalize driver (v.enter l.offRecord .driverExecuting).stage = result
  obtain ⟨stage, told, outcome⟩ := result
  cases outcome <;> rfl

theorem recorded_settle (l : Live (σ × List Act)) :
    ((v.recorded.settle l).1.offRecord, (v.recorded.settle l).2) = v.settle l.offRecord := by
  have same : l.offRecord.shutdownGrace = l.shutdownGrace := rfl
  unfold settle
  rw [same]
  cases l.shutdownGrace with
  | none => rfl
  | some grace =>
    have waited : v.recorded.awaitDrain (nanos grace) l.stage =
        (((v.awaitDrain (nanos grace) l.offRecord.stage).1, l.stage.2 ++ [.awaitDrain]),
          (v.awaitDrain (nanos grace) l.offRecord.stage).2) := rfl
    simp only [waited]
    generalize v.awaitDrain (nanos grace) l.offRecord.stage = result
    obtain ⟨stage, finished⟩ := result
    cases finished <;> rfl

theorem recorded_release (l : Live (σ × List Act)) (stuck : Bool) :
    ((v.recorded.release l stuck).1.offRecord, (v.recorded.release l stuck).2) =
      v.release l.offRecord stuck := by
  cases stuck with
  | true => rfl
  | false =>
    have joined : v.recorded.joinDrain l.stage =
        (((v.joinDrain l.offRecord.stage).1, l.stage.2 ++ [.joinDrain]),
          (v.joinDrain l.offRecord.stage).2) := rfl
    simp only [release, collect_joined, joined]
    cases (v.joinDrain l.offRecord.stage).2 <;> rfl

theorem recorded_finish (l : Live (σ × List Act)) :
    ((v.recorded.finish l).1.offRecord, (v.recorded.finish l).2) = v.finish l.offRecord := by
  have settled : _ = v.settle
      (v.enter { l.offRecord with stage := v.closeInput l.offRecord.stage } .awaitingDrainerJoin) :=
    v.recorded_settle
      (v.recorded.enter { l with stage := v.recorded.closeInput l.stage } .awaitingDrainerJoin)
  calc ((v.recorded.finish l).1.offRecord, (v.recorded.finish l).2)
      = v.release (v.recorded.settle _).1.offRecord (v.recorded.settle _).2 := v.recorded_release _ _
    _ = v.finish l.offRecord := congrArg (fun settled => v.release settled.1 settled.2) settled

/-- To keep a record changes nothing in a session. -/
theorem recorded_conduct (stage : σ) (l : Live σ) (name : String)
    (driver : σ → σ × ρ × Except Failure Unit) {record : Conducted (σ × List Act) ρ}
    (conducted : v.recorded.conduct (stage, []) (.ok l.onRecord) name (recordedDriver driver) = record) :
    v.conduct stage (.ok l) name driver =
      ⟨record.stage.1, record.trace, record.told, record.result⟩ := by
  have driven : _ = v.drive l name driver := v.recorded_drive l.onRecord name driver
  have finished := v.recorded_finish (v.recorded.drive l.onRecord name (recordedDriver driver)).1
  subst conducted
  unfold conduct
  dsimp only
  rw [← driven]
  dsimp only
  rw [← finished]
  generalize v.recorded.drive l.onRecord name (recordedDriver driver) = drive
  obtain ⟨l', told, outcome⟩ := drive
  dsimp only
  generalize v.recorded.finish l' = finish
  obtain ⟨l'', report⟩ := finish
  cases outcome <;> cases report <;> rfl

/-- A session that has an engine runs its driver once, and is then brought to its end, whatever came of
the driver. -/
theorem conduct_recorded (stage : σ) (l : Live σ) (name : String)
    (driver : σ → σ × ρ × Except Failure Unit) :
    ∃ waits ∈ patience, ∃ ends ∈ endings,
      (v.recorded.conduct (stage, []) (.ok l.onRecord) name (recordedDriver driver)).stage =
        ((v.conduct stage (.ok l) name driver).stage, .drive :: .closeInput :: waits ++ ends) := by
  obtain ⟨s, noted, ⟨waits, waiting, ends, ending, run⟩, -, -⟩ :=
    conduct_does (v := v.recorded) (stage, []) l.onRecord name (recordedDriver driver)
  refine ⟨waits, waiting, ends, ending, Prod.ext ?_ ?_⟩
  · rw [v.recorded_conduct stage l name driver rfl]
  · rw [recorded_does run]
    have unrecorded : s.2 = [] := recorded_does noted
    simp [recordedDriver, unrecorded]

end Venue

end PartyBridge.Session
