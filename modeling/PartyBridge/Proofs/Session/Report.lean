import PartyBridge.Proofs.Session.Stage

/-!
# What a session reports

Whatever the engine writes, whatever the drivers do and in whatever order the parties act, the counts in
a report agree with one another and with what the drivers have received (`report_consistent`). A whole
session runs its driver once if it has an engine, and is always brought to its end.
-/

namespace PartyBridge.Session
open Engine EngineOutput Ensemble

theorem result_ok_iff {outcome : Except Failure Unit} {finished : Except String Report}
    {report : Report} {f : Failure → Failure} {g : String → Failure} :
    ((outcome.mapError f).bind fun _ => finished.mapError g) = .ok report ↔
      outcome = .ok () ∧ finished = .ok report := by
  cases outcome <;> cases finished <;> simp [Except.mapError, Except.bind]

/-- Let any drivers run in a session, at any venue where the parties of a session act, in any order: if the
session then reports and has not left its drain to itself, the report is consistent with a run of the
parties. A session that has been launched on a fresh stage is one of these. And whatever the venue, the
driver of a whole session runs once if there is an engine, and else not at all; the session is brought
to its end after it; a failure of the driver is what the session fails with; and there is a report just
if the driver succeeded and the end of the session gave one. -/
theorem report_consistent :
    (∀ {σ : Type} (v : Venue σ) (make : Call → σ → Except BridgeError Driver.Reply × σ)
      (marker : List Char) (Shows : σ → Ensemble.State Empty → Prop) (pid grace : Nat) (bridge : Bridge)
      (drivers : List (String × Behaviour)) (l l' : Live σ)
      (replies : List (Except BridgeError Driver.Reply)) (report : Report),
      Faithful v make marker Shows → Begun v marker Shows pid grace bridge l →
      v.driveAll make drivers l = (l', replies) →
      (v.finish l').2 = .ok report → report.detached = false →
      ∃ reads h e, Run (Step marker) (start reads pid grace bridge) h e ∧
        Shows (v.finish l').1.stage e ∧
        report.Consistent marker drivers.length (replies.filterMap value?) h e) ∧
    (∀ (stage : Stage) (command : Invocation) (choices : Choices) (drivers : List (String × Behaviour))
      (l l' : Live Stage) (replies : List (Except BridgeError Driver.Reply)),
      stage.Fresh → Live.launch stage command choices = .ok l →
      Stage.venue.driveAll (fun call st => st.perform call) drivers l = (l', replies) →
      l'.finish.2.detached = false →
      l'.finish.1.stage.scene.queue.closed ≠ none ∧
      ∃ reads pid h e, Run (Step choices.marker.toList)
          (start reads pid (nanos choices.exitCloseGrace) l.stage.bridge) h e ∧
        l'.finish.1.stage.Shown choices.marker.toList e ∧
        l'.finish.2.Consistent choices.marker.toList drivers.length (replies.filterMap value?) h e) ∧
    (∀ {σ ρ : Type} (v : Venue σ) (stage : σ) (name : String)
      (driver : σ → σ × ρ × Except Failure Unit),
      (∀ e, v.conduct stage (.error e) name driver = ⟨stage, [], none, .error (.ofOrigin (.launch e))⟩) ∧
      (∀ l, ∃ s, Run v.Does l.stage [] s ∧
        (∃ waits ∈ Venue.patience, ∃ ends ∈ Venue.endings,
          (v.recorded.conduct (stage, []) (.ok l.onRecord) name (Venue.recordedDriver driver)).stage =
            ((v.conduct stage (.ok l) name driver).stage, .drive :: .closeInput :: waits ++ ends)) ∧
        (v.conduct stage (.ok l) name driver).told = some (driver s).2.1 ∧
        (∀ failure, (driver s).2.2 = .error failure →
          (v.conduct stage (.ok l) name driver).result =
            .error (failure.within ("driver " ++ name ++ " failed"))) ∧
        ∀ report, (v.conduct stage (.ok l) name driver).result = .ok report ↔
          (driver s).2.2 = .ok () ∧ (v.finish (v.drive l name driver).1).2 = .ok report)) := by
  refine ⟨?_, ?_, ?_⟩
  · intro σ v make marker Shows pid grace bridge drivers l l' replies report faithful begun driven
      reported kept
    exact faithful.report begun driven reported kept
  · intro stage command choices drivers l l' replies fresh launched driven kept
    obtain ⟨reported, same⟩ := finish_reported kept
    obtain ⟨pid, begun⟩ := launch_begun fresh launched
    obtain ⟨reads, h, e, run, shown, consistent⟩ :=
      (stage_faithful choices.marker.toList).report begun driven reported kept
    rw [same] at shown
    refine ⟨?_, reads, pid, h, e, run, shown, consistent⟩
    obtain ⟨d, -, -, feeding⟩ := shown.scene.drain
    obtain ⟨clock, idle⟩ := feeding.idle
    have closed := consistent.closed
    rw [idle] at closed
    exact closed
  · intro σ ρ v stage name driver
    refine ⟨fun e => rfl, fun l => ?_⟩
    obtain ⟨s, noted, -, told, result⟩ := Venue.conduct_does (v := v) stage l name driver
    refine ⟨s, noted, v.conduct_recorded stage l name driver, told, ?_, ?_⟩
    · intro failure failed
      rw [result, failed]
      rfl
    · intro report
      rw [result]
      exact result_ok_iff

/-- A stage whose machine has nothing but a program that repeats what it is told. -/
def parrot : Stage :=
  ⟨.quiet (.boot ⟨[([[101, 99, 104, 111]], .tool "echo")], #[]⟩) .empty,
    .start .unlimited .unlimited .empty [] none, none, none, ⟨[], []⟩⟩

/-- An engine that writes three values and a line that is none. -/
def parroting : Except LaunchError (Live Stage) :=
  Live.launch parrot ⟨"/echo", ["M 7\nM 8\nM x\nM 9"]⟩ ⟨"M", none, some 100, 0⟩

/-- A driver that receives twice and then gives up. -/
def impatient : Behaviour :=
  .calls .receive fun _ => .calls .receive fun _ => .ends (.error (.ofOrigin (.other "enough")))

/-- Two such drivers, one after another. -/
def impatience (l : Live Stage) : Live Stage × List (Except BridgeError Driver.Reply) :=
  Stage.venue.driveAll (fun call st => st.perform call) [("first", impatient), ("second", impatient)] l

theorem parroting_reports :
    parroting.toOption.map (fun l => ((impatience l).2.filterMap value?, (impatience l).1.finish.2)) =
      some ([7, 8, 9], ⟨⟨4, 3, 1, 0, 0⟩, ⟨0, 0, 3, 0⟩, some ⟨some 0, none⟩, false,
        [.notStarted, .engineRunning, .drainerRunning, .driverExecuting, .driverDone, .driverExecuting,
          .driverDone, .awaitingDrainerJoin, .terminated]⟩) := by
  decide +kernel

theorem report_consistent_parrot :
    ∃ l, parroting = .ok l ∧ (impatience l).2.filterMap value? = [7, 8, 9] ∧
      (impatience l).1.finish.2.drain = ⟨4, 3, 1, 0, 0⟩ ∧
      (impatience l).1.finish.1.stage.scene.queue.closed ≠ none ∧
      (∃ reads pid h e, Run (Step ['M']) (start reads pid 0 l.stage.bridge) h e ∧
        (impatience l).1.finish.2.Consistent ['M'] 2 [7, 8, 9] h e) ∧
      ∃ failure : Failure, (Stage.venue.conduct parrot parroting "first"
        (impatient.play fun call st => st.perform call)).result =
          .error (failure.within ("driver " ++ "first" ++ " failed")) := by
  obtain ⟨l, launched, reported⟩ := Option.map_eq_some_iff.mp parroting_reports
  have launched : parroting = .ok l := by
    cases known : parroting <;> simp_all [Except.toOption]
  obtain ⟨received, report⟩ := Prod.mk.inj reported
  have kept : (impatience l).1.finish.2.detached = false := by rw [report]
  have consistent := report_consistent.2.1 parrot _ _ [("first", impatient), ("second", impatient)] l
    (impatience l).1 (impatience l).2 ⟨rfl, rfl⟩ launched rfl kept
  rw [received] at consistent
  obtain ⟨closed, reads, pid, h, e, run, -, consistent⟩ := consistent
  obtain ⟨-, whole⟩ := report_consistent.2.2 Stage.venue parrot "first"
    (impatient.play fun call st => st.perform call)
  obtain ⟨s, -, -, -, failed, -⟩ := whole l
  refine ⟨l, launched, received, by rw [report], closed, ⟨reads, pid, h, e, run, consistent⟩, ?_⟩
  rw [launched]
  exact ⟨_, failed (.ofOrigin (.other "enough")) rfl⟩

end PartyBridge.Session
