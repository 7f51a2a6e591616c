import PartyBridge.Proofs.Driver.Alike
import PartyBridge.Proofs.Session.Reception

/-!
# Two sessions abreast

Two sessions go on abreast while their surroundings do the same and their drivers ask for the same, except
for the payloads that are to be sent or shown. What they write to the log without content then agrees line
by line (`Reception.Twins.run`, `Venue.Twins.finish`). Only a payload that is refused since it is no scalar
is told in the failure of the driver.
-/

namespace PartyBridge.Session
open Journal Driver ByteStream Engine EngineOutput

section
variable {σ τ : Type}

/-- Two sessions are twins again, and their logs have gone on abreast. -/
def Together (log : σ → List String) (R : σ → σ → Prop) (s s' t t' : σ) : Prop :=
  R t t' ∧ Abreast (log s) (log s') (log t) (log t')

theorem Together.trans {log : σ → List String} {R : σ → σ → Prop} {s s' t t' u u' : σ}
    (first : Together log R s s' t t') (second : Together log R t t' u u') :
    Together log R s s' u u' :=
  ⟨second.1, first.2.trans second.2⟩

/-! ### Venues -/

/-- Two sessions are at a venue whose surroundings do the same for both; the log is the one without
content. -/
structure Venue.Twins (v : Venue σ) (log : σ → List String) (R : σ → σ → Prop) : Prop where
  noted : ∀ note s, log (v.log note s) = log s ++ Level.events.messages [note]
  note : ∀ {s s'} note note', R s s' → R (v.log note s) (v.log note' s')
  stats : ∀ {s s'}, R s s' → v.stats s = v.stats s'
  closeInput : ∀ {s s'}, R s s' → Together log R s s' (v.closeInput s) (v.closeInput s')
  awaitDrain : ∀ {s s'} limit, R s s' → (v.awaitDrain limit s).2 = (v.awaitDrain limit s').2 ∧
    Together log R s s' (v.awaitDrain limit s).1 (v.awaitDrain limit s').1
  endEngine : ∀ {s s'}, R s s' → Together log R s s' (v.endEngine s) (v.endEngine s')
  stopDrain : ∀ {s s'}, R s s' → Together log R s s' (v.stopDrain s) (v.stopDrain s')
  leaveDrain : ∀ {s s'}, R s s' → Together log R s s' (v.leaveDrain s) (v.leaveDrain s')
  joinDrain : ∀ {s s'}, R s s' → (v.joinDrain s).2 = (v.joinDrain s').2 ∧
    Together log R s s' (v.joinDrain s).1 (v.joinDrain s').1
  dismiss : ∀ {s s'}, R s s' → (v.dismiss s).2 = (v.dismiss s').2 ∧
    Together log R s s' (v.dismiss s).1 (v.dismiss s').1
  joinLogger : ∀ {s s'}, R s s' → Together log R s s' (v.joinLogger s) (v.joinLogger s')

/-- Two sessions that are equally far. -/
structure Live.Twin (R : σ → σ → Prop) (l l' : Live σ) : Prop where
  stage : R l.stage l'.stage
  state : l.state = l'.state
  history : l.history = l'.history
  shutdownGrace : l.shutdownGrace = l'.shutdownGrace

def Live.Together (log : σ → List String) (R : σ → σ → Prop) (l l' m m' : Live σ) : Prop :=
  Live.Twin R m m' ∧ Abreast (log l.stage) (log l'.stage) (log m.stage) (log m'.stage)

theorem Live.Together.trans {log : σ → List String} {R : σ → σ → Prop} {l l' m m' n n' : Live σ}
    (first : Live.Together log R l l' m m') (second : Live.Together log R m m' n n') :
    Live.Together log R l l' n n' :=
  ⟨second.1, first.2.trans second.2⟩

/-- What is done on the stages of two sessions. -/
theorem Live.Twin.stages {log : σ → List String} {R : σ → σ → Prop} {l l' : Live σ} {s s' : σ}
    (twin : Live.Twin R l l') (together : Session.Together log R l.stage l'.stage s s') :
    Live.Together log R l l' { l with stage := s } { l' with stage := s' } :=
  ⟨⟨together.1, twin.state, twin.history, twin.shutdownGrace⟩, together.2⟩

namespace Venue.Twins

variable {v : Venue σ} {log : σ → List String} {R : σ → σ → Prop} {l l' : Live σ}

theorem notes {s s' : σ} {text text' : String} (twins : v.Twins log R) (alike : R s s')
    (agree : Agree text text') :
    Together log R s s' (v.log (event text) s) (v.log (event text') s') :=
  ⟨twins.note _ _ alike, _, _, twins.noted _ s, twins.noted _ s', agree.event⟩

theorem noting {text text' : String} (twins : v.Twins log R) (twin : Live.Twin R l l')
    (agree : Agree text text') : Live.Together log R l l' (v.note l text) (v.note l' text') :=
  twin.stages (twins.notes twin.stage agree)

theorem enter (twins : v.Twins log R) (twin : Live.Twin R l l') (next : State) :
    Live.Together log R l l' (v.enter l next) (v.enter l' next) := by
  obtain ⟨noted, abreast⟩ := twins.noting twin
    (.same ("Session state: " ++ l.state.name ++ " -> " ++ next.name))
  have same : v.enter l' next =
      { v.note l' ("Session state: " ++ l.state.name ++ " -> " ++ next.name) with
        state := next, history := next :: l'.history, trace := changed l'.state next :: l'.trace } := by
    rw [twin.state]
    rfl
  rw [same]
  exact ⟨⟨noted.stage, rfl, congrArg (next :: ·) twin.history, twin.shutdownGrace⟩, abreast⟩

theorem settle (twins : v.Twins log R) (twin : Live.Twin R l l') :
    (v.settle l).2 = (v.settle l').2 ∧ Live.Together log R l l' (v.settle l).1 (v.settle l').1 := by
  unfold Venue.settle
  obtain ⟨s, state, history, startedAt, grace, trace⟩ := l
  obtain ⟨s', state', history', startedAt', grace', trace'⟩ := l'
  obtain rfl : grace = grace' := twin.shutdownGrace
  cases grace with
  | none => exact ⟨rfl, twin, .refl _ _⟩
  | some grace =>
    obtain ⟨same, waited⟩ := twins.awaitDrain (nanos grace) twin.stage
    have waited := twin.stages waited
    dsimp only at same waited ⊢
    generalize v.awaitDrain (nanos grace) s = first at same waited ⊢
    generalize v.awaitDrain (nanos grace) s' = first' at same waited ⊢
    obtain ⟨t, finished⟩ := first
    obtain ⟨t', finished'⟩ := first'
    cases same
    cases finished with
    | true => exact ⟨rfl, waited⟩
    | false =>
      have told := waited.trans (twins.noting waited.1 (.same ("Engine output still open " ++
        Text.decimalNat grace ++ "ms after the driver finished; terminating engine")))
      have ended := twins.endEngine told.1.stage
      have stopped := ended.trans (twins.stopDrain ended.1)
      obtain ⟨same, again⟩ := twins.awaitDrain stopWait stopped.1
      exact ⟨congrArg (!·) same, told.trans (told.1.stages (stopped.trans again))⟩

theorem collect (twins : v.Twins log R) (twin : Live.Twin R l l') (stuck : Bool) :
    (v.collect l stuck).2 = (v.collect l' stuck).2 ∧
      Live.Together log R l l' (v.collect l stuck).1 (v.collect l' stuck).1 := by
  cases stuck with
  | true =>
    have told := twins.noting twin
      (.same "Engine output still held open by another process; not waiting for it")
    have left := told.1.stages (twins.leaveDrain told.1.stage)
    exact ⟨rfl, ⟨left.1.stage, left.1.state, left.1.history, left.1.shutdownGrace⟩,
      told.2.trans left.2⟩
  | false =>
    obtain ⟨same, joined⟩ := twins.joinDrain twin.stage
    exact ⟨same, twin.stages joined⟩

/-- How long a session took is the only difference between what two of them note at their end. -/
theorem conclude (twins : v.Twins log R) (twin : Live.Twin R l l') (stuck : Bool) (drain : DrainStats)
    (exit : Option Exit) :
    (v.conclude l stuck drain exit).2 = (v.conclude l' stuck drain exit).2 ∧
      Live.Together log R l l' (v.conclude l stuck drain exit).1 (v.conclude l' stuck drain exit).1 := by
  have joined : Live.Together log R l l'
      { l with stage := if stuck then l.stage else v.joinLogger l.stage }
      { l' with stage := if stuck then l'.stage else v.joinLogger l'.stage } := by
    cases stuck with
    | true => exact ⟨twin, .refl _ _⟩
    | false => exact twin.stages (twins.joinLogger twin.stage)
  have entered := joined.trans (twins.enter joined.1 .terminated)
  have stats := twins.stats entered.1.stage
  unfold Venue.conclude
  dsimp only
  generalize v.enter _ .terminated = m at entered stats ⊢
  generalize v.enter _ .terminated = m' at entered stats ⊢
  rw [stats]
  have agree (ms ms' : Nat) := Agree.finished ms ms' (Text.decimalNat drain.values ++ " received=" ++
    Text.decimalNat (v.stats m'.stage).received ++ " sent=" ++ Text.decimalNat (v.stats m'.stage).sent ++
    " engine=" ++ exitText "unknown" exit)
  simp only [← String.append_assoc] at agree
  have noted := entered.trans (twins.noting entered.1 (agree ((v.clock m.stage - m.startedAt) / 1000000)
    ((v.clock m'.stage - m'.startedAt) / 1000000)))
  refine ⟨congrArg (Report.mk drain (v.stats m'.stage) exit stuck ·.reverse) noted.1.history, ?_⟩
  exact ⟨⟨noted.1.stage, noted.1.state, noted.1.history, noted.1.shutdownGrace⟩, noted.2⟩

theorem release (twins : v.Twins log R) (twin : Live.Twin R l l') (stuck : Bool) :
    (v.release l stuck).2 = (v.release l' stuck).2 ∧
      Live.Together log R l l' (v.release l stuck).1 (v.release l' stuck).1 := by
  obtain ⟨same, collected⟩ := twins.collect twin stuck
  unfold Venue.release
  generalize v.collect l stuck = counts at same collected ⊢
  generalize v.collect l' stuck = counts' at same collected ⊢
  obtain ⟨m, drain⟩ := counts
  obtain ⟨m', drain'⟩ := counts'
  cases same
  obtain ⟨exits, ended⟩ := twins.dismiss collected.1.stage
  have dismissed := collected.trans (collected.1.stages ended)
  dsimp only at exits dismissed ⊢
  rw [exits]
  cases drain with
  | error lost => exact ⟨rfl, dismissed⟩
  | ok drain =>
    obtain ⟨report, concluded⟩ := twins.conclude dismissed.1 stuck drain (v.dismiss m'.stage).2
    exact ⟨congrArg Except.ok report, dismissed.trans concluded⟩

/-- Two sessions that are equally far report the same and leave the same in their logs. -/
theorem finish (twins : v.Twins log R) (twin : Live.Twin R l l') :
    (v.finish l).2 = (v.finish l').2 ∧ Live.Together log R l l' (v.finish l).1 (v.finish l').1 := by
  have closed := twin.stages (twins.closeInput twin.stage)
  have entered := closed.trans (twins.enter closed.1 .awaitingDrainerJoin)
  obtain ⟨same, waited⟩ := twins.settle entered.1
  have settled := entered.trans waited
  unfold Venue.finish
  dsimp only
  generalize v.settle _ = waited at same settled ⊢
  generalize v.settle _ = waited' at same settled ⊢
  obtain ⟨m, stuck⟩ := waited
  obtain ⟨m', stuck'⟩ := waited'
  cases same
  obtain ⟨report, released⟩ := twins.release settled.1 stuck
  exact ⟨report, settled.trans released⟩

end Venue.Twins

/-! ### Drivers -/

/-- Two drivers are run where the surroundings do the same for both. `R` relates stages and `S` stages with
a driver; the logs are those without content. -/
structure Reception.Twins (r : Reception σ τ) (log : σ → List String) (log' : τ → List String)
    (R : σ → σ → Prop) (S : τ → τ → Prop) : Prop where
  noted : ∀ note t, log' (r.note note t) = log' t ++ Level.events.messages [note]
  start : ∀ {s s'}, R s s' →
    (∃ e t t', r.start s = .error (e, t) ∧ r.start s' = .error (e, t') ∧ Together log R s s' t t') ∨
    ∃ t t', r.start s = .ok t ∧ r.start s' = .ok t' ∧ S t t' ∧ Abreast (log s) (log s') (log' t) (log' t')
  nextLine : ∀ {t t'}, S t t' → Option.Rel ReadsAlike (r.nextLine t).1 (r.nextLine t').1 ∧
    Together log' S t t' (r.nextLine t).2 (r.nextLine t').2
  ready : ∀ {t t'} call call', S t t' → Together log' S t t' (r.ready call t) (r.ready call' t')
  perform : ∀ {t t' call call'}, Call.Alike call call' → S t t' →
    RepliesAlike (r.perform call t).1 (r.perform call' t').1 ∧
      Together log' S t t' (r.perform call t).2 (r.perform call' t').2
  note : ∀ {t t'} note note', S t t' → S (r.note note t) (r.note note' t')
  write : ∀ {t t'} bytes bytes', S t t' → (r.write bytes t).2 = (r.write bytes' t').2 ∧
    Together log' S t t' (r.write bytes t).1 (r.write bytes' t').1
  hangUp : ∀ {t t'}, S t t' → Together log' S t t' (r.hangUp t) (r.hangUp t')
  stop : ∀ {t t'} failed, S t t' → (r.stop failed t).2 = (r.stop failed t').2 ∧
    R (r.stop failed t).1 (r.stop failed t').1 ∧
    Abreast (log' t) (log' t') (log (r.stop failed t).1) (log (r.stop failed t').1)

namespace Reception.Twins

variable {r : Reception σ τ} {log : σ → List String} {log' : τ → List String}
variable {R : σ → σ → Prop} {S : τ → τ → Prop} {t t' : τ}

theorem calls {call call' : Call} (twins : r.Twins log log' R S) (alike : S t t')
    (calls : call.Alike call') :
    RepliesAlike (r.call call t).1 (r.call call' t').1 ∧
      Together log' S t t' (r.call call t).2 (r.call call' t').2 := by
  have ready := twins.ready call call' alike
  obtain ⟨replies, made⟩ := twins.perform calls ready.1
  exact ⟨replies, ready.trans made⟩

theorem notes (twins : r.Twins log log' R S) (alike : S t t') (note note' : Note)
    (agree : List.Forall₂ Agree (Level.events.messages [note]) (Level.events.messages [note'])) :
    Together log' S t t' (r.note note t) (r.note note' t') :=
  ⟨twins.note note note' alike, _, _, twins.noted note t, twins.noted note' t', agree⟩

theorem delivers (twins : r.Twins log log' R S) (alike : S t t') (reply reply' : Reply) :
    (r.deliver reply t).1 = (r.deliver reply' t').1 ∧
      Together log' S t t' (r.deliver reply t).2 (r.deliver reply' t').2 := by
  -- what is said to a driver is content
  have noted := twins.notes alike (content ("Driver reply: " ++ reply.text))
    (content ("Driver reply: " ++ reply'.text)) .nil
  obtain ⟨same, wrote⟩ := twins.write reply.line reply'.line noted.1
  refine ⟨?_, noted.trans wrote⟩
  unfold deliver
  dsimp only
  rw [same]

theorem losesReplies (twins : r.Twins log log' R S) (alike : S t t') :
    Together log' S t t' (r.repliesLost t) (r.repliesLost t') := by
  have noted := twins.notes alike _ _
    (Agree.same "Driver closed its input; no further replies possible").event
  exact noted.trans (twins.hangUp noted.1)

/-! ### Service -/

theorem serveRequest {request request' : Request} (twins : r.Twins log log' R S) (alike : S t t')
    (requests : request.Alike request') :
    ServedAlike (Driver.serveRequest r.desk request t).1 (Driver.serveRequest r.desk request' t').1 ∧
      Together log' S t t' (Driver.serveRequest r.desk request t).2
        (Driver.serveRequest r.desk request' t').2 := by
  unfold Driver.serveRequest
  have asked := requests.call
  generalize request.call = ask at asked ⊢
  generalize request'.call = ask' at asked ⊢
  cases asked with
  | @calls call call' calls =>
    obtain ⟨replies, made⟩ := twins.calls alike calls
    simp only [desk]
    generalize r.call call t = answer at replies made ⊢
    generalize r.call call' t' = answer' at replies made ⊢
    obtain ⟨result, u⟩ := answer
    obtain ⟨result', u'⟩ := answer'
    cases replies with
    | failed e => exact ⟨.fails (.same _), made.trans (twins.delivers made.1 _ _).2⟩
    | replied reply reply' =>
      obtain ⟨same, delivered⟩ := twins.delivers made.1 reply reply'
      have delivered := made.trans delivered
      dsimp only
      generalize r.deliver reply u = delivery at same delivered ⊢
      generalize r.deliver reply' u' = delivery' at same delivered ⊢
      obtain ⟨outcome, w⟩ := delivery
      obtain ⟨outcome', w'⟩ := delivery'
      cases same
      cases outcome with
      | ok => exact ⟨.goesOn true, delivered⟩
      | error fault =>
        cases fault with
        | brokenPipe => exact ⟨.goesOn false, delivered.trans (twins.losesReplies delivered.1)⟩
        | _ => exact ⟨.fails (.same _), delivered⟩
  | fails fails => exact ⟨.fails fails, (twins.delivers alike _ _).2⟩

theorem serveText (twins : r.Twins log log' R S) (alike : S t t') (replies : Bool) (line : String) :
    ServedAlike (Driver.serveText r.desk replies line t).1 (Driver.serveText r.desk replies line t').1 ∧
      Together log' S t t' (Driver.serveText r.desk replies line t).2
        (Driver.serveText r.desk replies line t').2 := by
  have stays : Together log' S t t' t t' := ⟨alike, .refl _ _⟩
  unfold Driver.serveText
  dsimp only
  split
  · exact ⟨.goesOn replies, stays⟩
  · split
    · exact ⟨.fails (.same _), stays⟩
    · split
      · exact twins.serveRequest alike (.same _)
      · exact ⟨.fails (.same _), stays⟩

theorem serveRead {read read' : LineRead} (twins : r.Twins log log' R S) (alike : S t t')
    (reads : ReadsAlike read read') (replies : Bool) :
    ServedAlike (Driver.serveRead r.desk replies read t).1 (Driver.serveRead r.desk replies read' t').1 ∧
      Together log' S t t' (Driver.serveRead r.desk replies read t).2
        (Driver.serveRead r.desk replies read' t').2 := by
  have stays : Together log' S t t' t t' := ⟨alike, .refl _ _⟩
  cases reads with
  | same =>
    unfold Driver.serveRead
    split
    · exact ⟨.fails (.same _), stays⟩
    · split
      · exact ⟨.fails (.same _), stays⟩
      · exact twins.serveText alike replies _
  | spoken spells spells' requests =>
    rw [serveRead_spells spells, serveRead_spells spells']
    cases replies with
    | true => exact twins.serveRequest alike requests
    | false => exact ⟨.fails (.same _), stays⟩

theorem serve (twins : r.Twins log log' R S) (alike : S t t') (lines : Nat) (replies : Bool) :
    OutcomesAlike (Driver.serve r.desk lines replies t).1 (Driver.serve r.desk lines replies t').1 ∧
      Together log' S t t' (Driver.serve r.desk lines replies t).2
        (Driver.serve r.desk lines replies t').2 := by
  induction lines generalizing t t' replies with
  | zero => exact ⟨.served, alike, .refl _ _⟩
  | succ lines ih =>
    have next : r.desk.nextLine = r.nextLine := rfl
    obtain ⟨reads, read⟩ := twins.nextLine alike
    rw [Driver.serve, Driver.serve, next]
    generalize r.nextLine t = first at reads read ⊢
    generalize r.nextLine t' = first' at reads read ⊢
    obtain ⟨line, u⟩ := first
    obtain ⟨line', u'⟩ := first'
    cases reads with
    | none => exact ⟨.served, read⟩
    | some reads =>
      obtain ⟨kind, served⟩ := twins.serveRead read.1 reads replies
      have served := read.trans served
      dsimp only
      generalize Driver.serveRead r.desk replies _ u = result at kind served ⊢
      generalize Driver.serveRead r.desk replies _ u' = result' at kind served ⊢
      obtain ⟨step, w⟩ := result
      obtain ⟨step', w'⟩ := result'
      cases kind with
      | goesOn replies =>
        obtain ⟨outcomes, rest⟩ := ih served.1 replies
        exact ⟨outcomes, served.trans rest⟩
      | fails fails => exact ⟨.fails fails, served⟩

/-- Two drivers that are served alike leave their sessions twins. -/
theorem run {v : Venue σ} {s s' : σ} (twins : r.Twins log log' R S) (venue : v.Twins log R)
    (alike : R s s') (name : String) :
    OutcomesAlike (r.run v name s).2 (r.run v name s').2 ∧
      Together log R s s' (r.run v name s).1 (r.run v name s').1 := by
  unfold Reception.run
  obtain ⟨e, t, t', fails, fails', failed⟩ | ⟨t, t', starts, starts', begun, started⟩ := twins.start alike
  · rw [fails, fails']
    exact ⟨.fails (.same e), failed⟩
  · rw [starts, starts']
    obtain ⟨outcomes, after, served⟩ := twins.serve begun Scene.patience true
    have served := started.trans served
    dsimp only
    generalize Driver.serve r.desk Scene.patience true t = service at outcomes after served ⊢
    generalize Driver.serve r.desk Scene.patience true t' = service' at outcomes after served ⊢
    obtain ⟨outcome, u⟩ := service
    obtain ⟨outcome', u'⟩ := service'
    cases outcomes with
    | fails fails =>
      obtain ⟨-, stays, stopped⟩ := twins.stop true after
      exact ⟨.fails fails, stays, served.trans stopped⟩
    | served =>
      obtain ⟨same, stays, stopped⟩ := twins.stop false after
      have stopped := served.trans stopped
      dsimp only
      rw [same]
      split
      · have noted := venue.notes stays (.same "Driver finished")
        exact ⟨.served, noted.1, stopped.trans noted.2⟩
      · exact ⟨.fails (.same _), stays, stopped⟩

end Reception.Twins

end

end PartyBridge.Session
