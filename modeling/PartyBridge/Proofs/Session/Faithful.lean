import PartyBridge.Proofs.Ensemble.Arrival
import PartyBridge.Proofs.Session.Course

/-!
# Sessions and their parties

A driver makes calls, each as it likes after the replies so far, and succeeds or fails (`Behaviour`). A
venue is faithful if what happens there is a run of the parties of a session, who may act in any order
(`Faithful`). What a session at such a venue reports then follows from what is known of their runs.
-/

namespace PartyBridge.Ensemble

variable {marker : List Char} {e e' e'' : State Empty} {values later : List Int64}

/-- A session may come from one state to another while the driver receives some values. -/
def Follows (marker : List Char) (e : State Empty) (values : List Int64) (e' : State Empty) : Prop :=
  Continues marker e e' ∧ e'.received = e.received ++ values

theorem Follows.refl (e : State Empty) : Follows marker e [] e :=
  ⟨.refl e, by simp⟩

theorem Follows.trans (first : Follows marker e values e') (second : Follows marker e' later e'') :
    Follows marker e (values ++ later) e'' :=
  ⟨first.1.trans second.1, by rw [second.2, first.2, List.append_assoc]⟩

theorem Continues.finished (continues : Continues marker e e') (finished : e.place = .finished) :
    e'.place = .finished ∧ e'.drain = e.drain := by
  obtain ⟨more, h, done, run⟩ := continues
  obtain ⟨place, -, drain⟩ := run_finished run finished
  exact ⟨place, drain⟩

end PartyBridge.Ensemble

namespace PartyBridge.Session

open EngineOutput Ensemble

/-- A driver that makes calls, each as it likes after the replies so far, and then succeeds or fails. -/
inductive Behaviour where
  | ends (outcome : Except Failure Unit)
  | calls (call : Call) (next : Except BridgeError Driver.Reply → Behaviour)

section Drivers
variable {σ : Type}

/-- Runs the driver where calls are made in some way; tells the replies. -/
def Behaviour.play (make : Call → σ → Except BridgeError Driver.Reply × σ) :
    Behaviour → σ → σ × List (Except BridgeError Driver.Reply) × Except Failure Unit
  | .ends outcome, s => (s, [], outcome)
  | .calls call next, s =>
    let (reply, s) := make call s
    let (s, replies, outcome) := (next reply).play make s
    (s, reply :: replies, outcome)

/-- Runs drivers of some names one after another on a session; tells their replies. -/
def Venue.driveAll (v : Venue σ) (make : Call → σ → Except BridgeError Driver.Reply × σ) :
    List (String × Behaviour) → Live σ → Live σ × List (Except BridgeError Driver.Reply)
  | [], l => (l, [])
  | (name, driver) :: rest, l =>
    let (l, replies, _) := v.drive l name (driver.play make)
    let (l, later) := v.driveAll make rest l
    (l, replies ++ later)

def value? : Except BridgeError Driver.Reply → Option Int64
  | .ok (.value v) => some v
  | _ => none

/-- What happens at a venue, where calls are made in some way, is a run of the parties of a session. `Shows`
says how far the parties are. -/
structure Faithful (v : Venue σ) (make : Call → σ → Except BridgeError Driver.Reply × σ)
    (marker : List Char) (Shows : σ → Ensemble.State Empty → Prop) : Prop where
  does : ∀ {s a s' e}, v.Does s a s' → Shows s e → ∃ e', Follows marker e [] e' ∧ Shows s' e'
  makes : ∀ {s e} call, Shows s e →
    ∃ e', Follows marker e (value? (make call s).1).toList e' ∧ Shows (make call s).2 e'
  joins : ∀ {s e stats}, (v.joinDrain s).2 = .ok stats → Shows (v.joinDrain s).1 e →
    e.place = .finished ∧ e.drain.stats = stats
  counts : ∀ {s e}, Shows s e → (v.stats s).received = e.bridge.stats.received

namespace Faithful

variable {v : Venue σ} {make : Call → σ → Except BridgeError Driver.Reply × σ} {marker : List Char}
variable {Shows : σ → Ensemble.State Empty → Prop} {e : Ensemble.State Empty}

theorem run {s s' : σ} {acts : List Act} (faithful : Faithful v make marker Shows)
    (run : Run v.Does s acts s') (shown : Shows s e) :
    ∃ e', Follows marker e [] e' ∧ Shows s' e' := by
  induction run with
  | refl => exact ⟨e, .refl e, shown⟩
  | tail _ step ih =>
    obtain ⟨e', follows, shown'⟩ := ih
    obtain ⟨e'', follows', shown''⟩ := faithful.does step shown'
    exact ⟨e'', follows.trans follows', shown''⟩

theorem play (faithful : Faithful v make marker Shows) (driver : Behaviour) {s : σ} (shown : Shows s e) :
    ∃ e', Follows marker e ((driver.play make s).2.1.filterMap value?) e' ∧
      Shows (driver.play make s).1 e' := by
  induction driver generalizing s e with
  | ends outcome => exact ⟨e, .refl e, shown⟩
  | calls call next ih =>
    obtain ⟨e', follows, shown'⟩ := faithful.makes call shown
    obtain ⟨e'', follows', shown''⟩ := ih _ shown'
    refine ⟨e'', ?_, shown''⟩
    have all := follows.trans follows'
    cases heard : value? (make call s).1 <;> simpa [Behaviour.play, heard] using all

theorem drive (faithful : Faithful v make marker Shows) (l : Live σ) (name : String)
    (driver : Behaviour) (shown : Shows l.stage e) :
    ∃ e', Follows marker e ((v.drive l name (driver.play make)).2.1.filterMap value?) e' ∧
      Shows (v.drive l name (driver.play make)).1.stage e' := by
  obtain ⟨s, before, after, told, -, -⟩ := Venue.drive_does (v := v) l name (driver.play make)
  obtain ⟨e₁, first, shown⟩ := faithful.run before shown
  obtain ⟨e₂, second, shown⟩ := faithful.play driver shown
  obtain ⟨e₃, third, shown⟩ := faithful.run after shown
  rw [told]
  exact ⟨e₃, by simpa using (first.trans second).trans third, shown⟩

theorem driveAll (faithful : Faithful v make marker Shows) (drivers : List (String × Behaviour))
    (l : Live σ) (shown : Shows l.stage e) :
    ∃ e', Follows marker e ((v.driveAll make drivers l).2.filterMap value?) e' ∧
      Shows (v.driveAll make drivers l).1.stage e' := by
  induction drivers generalizing l e with
  | nil => exact ⟨e, .refl e, shown⟩
  | cons driver rest ih =>
    obtain ⟨name, driver⟩ := driver
    obtain ⟨e', follows, shown'⟩ := faithful.drive l name driver shown
    obtain ⟨e'', follows', shown''⟩ := ih _ shown'
    refine ⟨e'', ?_, shown''⟩
    simpa [Venue.driveAll] using follows.trans follows'

/-- A drain that is not left to itself is at its end when a session reports, and has been since its counts
were taken. -/
theorem finish (faithful : Faithful v make marker Shows) {l : Live σ} {report : Report}
    (reported : (v.finish l).2 = .ok report) (kept : report.detached = false)
    (shown : Shows l.stage e) :
    ∃ e', Follows marker e [] e' ∧ Shows (v.finish l).1.stage e' ∧
      e'.place = .finished ∧ e'.drain.stats = report.drain ∧
      (∃ e₁, Follows marker e [] e₁ ∧ report.bridge.received = e₁.bridge.stats.received) ∧
      report.history = l.history.reverse ++ [.awaitingDrainerJoin, .terminated] := by
  obtain ⟨waits, -, s, acts, waited, ending⟩ := Venue.finish_ending (v := v) l
  obtain ⟨e₀, follows₀, shown₀⟩ := faithful.run waited shown
  rw [reported] at ending
  cases ending with
  | left run detached => cases kept.symm.trans detached
  | joined counts run stats noted past =>
    obtain ⟨e₁, follows₁, shown₁⟩ := faithful.does (.joinDrain s) shown₀
    obtain ⟨finished, counted⟩ := faithful.joins counts shown₁
    obtain ⟨e₂, follows₂, shown₂⟩ := faithful.run run shown₁
    obtain ⟨e₃, follows₃, shown₃⟩ := faithful.run noted shown₂
    -- the counts were taken from a drain at its end, and such a drain does nothing more
    obtain ⟨place, drain⟩ := (follows₂.trans follows₃).1.finished finished
    have joined := (follows₀.trans follows₁).trans follows₂
    refine ⟨e₃, joined.trans follows₃, shown₃, place, drain ▸ counted, ⟨e₂, joined, ?_⟩, past⟩
    rw [stats]
    exact faithful.counts shown₂

end Faithful

/-- What a session goes through while it runs some drivers. -/
theorem Venue.driveAll_history (v : Venue σ) (make : Call → σ → Except BridgeError Driver.Reply × σ)
    (drivers : List (String × Behaviour)) (l : Live σ) :
    (v.driveAll make drivers l).1.history.reverse = l.history.reverse ++
      (List.replicate drivers.length [State.driverExecuting, .driverDone]).flatten := by
  induction drivers generalizing l with
  | nil => simp [driveAll]
  | cons driver rest ih =>
    obtain ⟨name, driver⟩ := driver
    obtain ⟨-, -, -, -, -, history⟩ := drive_does (v := v) l name (driver.play make)
    simp [driveAll, ih, history, List.replicate_succ]

end Drivers

/-! ### Reports -/

/-- A report agrees with what the parties of a session have done, and with what its drivers, of which
there were some number, have received. -/
structure Report.Consistent (report : Report) (marker : List Char) (drivers : Nat)
    (received : List Int64) (h : List (Handoff.Event (Party Empty))) (e : Ensemble.State Empty) :
    Prop where
  finished : e.place = .finished
  closed : e.handoff.queue.closed ≠ none
  drain : report.drain = e.drain.stats
  lines : report.drain.lines = report.drain.values + report.drain.malformed + report.drain.untagged +
    report.drain.dropped
  bounded : report.bridge.received ≤ report.drain.values
  accepted : lineValues marker e.settled = Handoff.accepted h ++ Handoff.refused h
  first : received = (Handoff.accepted h).take report.bridge.received
  waiting : received ++ e.handoff.queue.items = Handoff.accepted h
  history : report.history = [.notStarted, .engineRunning, .drainerRunning] ++
    (List.replicate drivers [State.driverExecuting, .driverDone]).flatten ++
    [.awaitingDrainerJoin, .terminated]

/-- A session whose engine has just been started, with a bridge that has received nothing: its parties are
hardly past their start. -/
def Begun {σ : Type} (v : Venue σ) (marker : List Char) (Shows : σ → Ensemble.State Empty → Prop)
    (pid grace : Nat) (bridge : Bridge) (l : Live σ) : Prop :=
  ∃ stage startedAt shutdownGrace began e, l = v.started stage startedAt shutdownGrace began ∧
    Shows stage e ∧ Follows marker (start [] pid grace bridge) [] e ∧ bridge.stats.received = 0

theorem Faithful.report {σ : Type} {v : Venue σ}
    {make : Call → σ → Except BridgeError Driver.Reply × σ} {marker : List Char}
    {Shows : σ → Ensemble.State Empty → Prop} {pid grace : Nat} {bridge : Bridge} {l l' : Live σ}
    {drivers : List (String × Behaviour)} {replies : List (Except BridgeError Driver.Reply)}
    {report : Report} (faithful : Faithful v make marker Shows)
    (begun : Begun v marker Shows pid grace bridge l)
    (driven : v.driveAll make drivers l = (l', replies)) (reported : (v.finish l').2 = .ok report)
    (kept : report.detached = false) :
    ∃ reads h e, Run (Step marker) (start reads pid grace bridge) h e ∧
      Shows (v.finish l').1.stage e ∧
      report.Consistent marker drivers.length (replies.filterMap value?) h e := by
  obtain ⟨stage, startedAt, shutdownGrace, began, e, rfl, shown, begun, fresh⟩ := begun
  have entered := (Venue.enter_does (v := v) ⟨stage, .notStarted, [.notStarted], startedAt, shutdownGrace,
    [began]⟩ .engineRunning).trans (Venue.enter_does _ .drainerRunning)
  obtain ⟨e₁, follows₁, shown₁⟩ := faithful.run entered shown
  obtain ⟨e₂, follows₂, shown₂⟩ := faithful.driveAll drivers
    (v.started stage startedAt shutdownGrace began) shown₁
  have history := v.driveAll_history make drivers (v.started stage startedAt shutdownGrace began)
  rw [driven] at follows₂ shown₂ history
  obtain ⟨e₃, follows₃, shown₃, finished, drain, ⟨e', follows', stats⟩, past⟩ :=
    faithful.finish reported kept shown₂
  have before := (begun.trans follows₁).trans follows₂
  obtain ⟨reads, h, run⟩ := (before.trans follows₃).1.run
  obtain ⟨_, _, run'⟩ := (before.trans follows').1.run
  have account := run_account run
  have items := (Handoff.run_ledger (run_handoff run)).items
  have received : e₃.received = replies.filterMap value? := by
    simpa [State.received, start] using (before.trans follows₃).2
  have counted : report.bridge.received = (replies.filterMap value?).length := by
    have same : e'.received = replies.filterMap value? := by
      simpa [State.received, start] using (before.trans follows').2
    rw [stats, (run_tallied run').received, fresh, same, Nat.zero_add]
  rw [← account.received, received] at items
  refine ⟨reads, h, e₃, run, shown₃, finished, run_released run (.inl finished), drain.symm, ?_, ?_,
    account.values, ?_, items, ?_⟩
  · rw [← drain]
    exact (run_tallied run).lines
  · rw [counted, ← drain, account.taken, ← items, List.length_append]
    exact Nat.le_add_right ..
  · rw [counted, ← items, List.take_left]
  · rw [past, history]
    rfl

end PartyBridge.Session
