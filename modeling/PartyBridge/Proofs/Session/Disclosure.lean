import PartyBridge.Proofs.Session.Companion
import PartyBridge.Proofs.Session.Likeness

/-!
# What the log discloses

Take two sessions around which the same happens, and whose drivers do the same but for the payloads of their
requests. Without content, their logs agree line by line, unless a payload is refused since it is no scalar:
then the line that tells of the driver's failure shows it (`discloses_alike`).
-/

namespace PartyBridge.Session
open Journal Driver ByteStream Engine

def driverFailure (name : String) (e : DriverError) : Failure :=
  (Failure.ofOrigin (.driver e)).within ("driver " ++ name ++ " failed")

def failureLine (name : String) (e : DriverError) : String :=
  "Driver failed: " ++ (driverFailure name e).text

theorem failureLine_refusal (name : String) (command : Command) (value : Json.Value) :
    failureLine name (refusal command value) = "Driver failed: driver " ++ name ++
      " failed: driver protocol error: " ++ command.name ++ " needs a scalar value, got " ++ value.render := by
  have first : "Driver failed: " ++ "driver " = "Driver failed: driver " := by decide
  have second : " failed" ++ (": " ++ "driver protocol error: ") =
      " failed: driver protocol error: " := by decide
  have text : (driverFailure name (refusal command value)).text = "driver " ++ name ++ " failed" ++ ": " ++
      ("driver protocol error: " ++ (command.name ++ " needs a scalar value, got " ++ value.render)) := rfl
  delta failureLine
  rw [text, ← first, ← second]
  simp only [String.append_assoc]

section
variable {σ τ : Type} {v : Venue σ} {r : Reception σ τ} {log : σ → List String} {log' : τ → List String}
variable {R : σ → σ → Prop} {S : τ → τ → Prop} {l l' : Live σ}

theorem Live.Twin.emit (twin : Live.Twin R l l') (e e' : TraceEvent) :
    Live.Twin R (l.emit e) (l'.emit e') :=
  ⟨twin.stage, twin.state, twin.history, twin.shutdownGrace⟩

theorem drive_twins (venue : v.Twins log R) (twins : r.Twins log log' R S) (twin : Live.Twin R l l')
    (name : String) {m m' : Live σ} {outcome outcome' : Except Failure Unit}
    (drove : v.drive l name (r.driver v name) = (m, (), outcome))
    (drove' : v.drive l' name (r.driver v name) = (m', (), outcome')) :
    Live.Twin R m m' ∧
    ((outcome = .ok () ∧ outcome' = .ok () ∧
        Abreast (log l.stage) (log l'.stage) (log m.stage) (log m'.stage)) ∨
      ∃ e e', FailsAlike e e' ∧ outcome = .error (driverFailure name e) ∧
        outcome' = .error (driverFailure name e') ∧ Parted (failureLine name e) (failureLine name e')
          (log l.stage) (log l'.stage) (log m.stage) (log m'.stage)) := by
  have entered := venue.enter twin .driverExecuting
  obtain ⟨outcomes, ran⟩ := twins.run venue entered.1.stage name
  have ran := entered.trans (entered.1.stages ran)
  unfold Venue.drive Reception.driver at drove drove'
  dsimp only at drove drove'
  generalize r.run v name (v.enter l .driverExecuting).stage = result at outcomes ran drove
  generalize r.run v name (v.enter l' .driverExecuting).stage = result' at outcomes ran drove'
  obtain ⟨s, told⟩ := result
  obtain ⟨s', told'⟩ := result'
  cases outcomes with
  | served =>
    cases drove
    cases drove'
    have done := ran.trans (venue.enter ran.1 .driverDone)
    exact ⟨done.1, .inl ⟨rfl, rfl, done.2⟩⟩
  | @fails e e' alike =>
    cases drove
    cases drove'
    have told : log (v.log (event (failureLine name e)) s) = log s ++ [failureLine name e] :=
      venue.noted _ s
    have told' : log (v.log (event (failureLine name e')) s') = log s' ++ [failureLine name e'] :=
      venue.noted _ s'
    have noted : Live.Twin R (v.note { v.enter l .driverExecuting with stage := s } (failureLine name e))
        (v.note { v.enter l' .driverExecuting with stage := s' } (failureLine name e')) :=
      ⟨venue.note _ _ ran.1.stage, ran.1.state, ran.1.history, ran.1.shutdownGrace⟩
    refine ⟨(venue.enter (noted.emit _ _) .driverDone).1, .inr ⟨e, e', alike, rfl, rfl, log s, log s',
      ran.2, ?_⟩⟩
    rw [← told, ← told']
    exact (venue.enter (noted.emit _ _) .driverDone).2

/-- Two sessions end the same, with logs that agree, or their drivers have failed alike, which is told by
one line in each log. -/
theorem conduct_twins (venue : v.Twins log R) (twins : r.Twins log log' R S) (twin : Live.Twin R l l')
    (agree : List.Forall₂ Agree (log l.stage) (log l'.stage)) (stage stage' : σ) (name : String)
    {c c' : Conducted σ Unit} (conducted : v.conduct stage (.ok l) name (r.driver v name) = c)
    (conducted' : v.conduct stage' (.ok l') name (r.driver v name) = c') :
    (c.result = c'.result ∧ List.Forall₂ Agree (log c.stage) (log c'.stage)) ∨
    ∃ e e' before before' after after', FailsAlike e e' ∧ c.result = .error (driverFailure name e) ∧
      c'.result = .error (driverFailure name e') ∧ log c.stage = before ++ failureLine name e :: after ∧
      log c'.stage = before' ++ failureLine name e' :: after' ∧
      List.Forall₂ Agree before before' ∧ List.Forall₂ Agree after after' := by
  unfold Venue.conduct at conducted conducted'
  dsimp only at conducted conducted'
  generalize drove : v.drive l name (r.driver v name) = drive at conducted
  generalize drove' : v.drive l' name (r.driver v name) = drive' at conducted'
  obtain ⟨m, told, outcome⟩ := drive
  obtain ⟨m', told', outcome'⟩ := drive'
  obtain ⟨twin', outcomes⟩ := drive_twins venue twins twin name drove drove'
  obtain ⟨same, finished⟩ := venue.finish twin'
  dsimp only at conducted conducted'
  generalize v.finish m = finish at same finished conducted
  generalize v.finish m' = finish' at same finished conducted'
  obtain ⟨n, report⟩ := finish
  obtain ⟨n', report'⟩ := finish'
  cases same
  obtain ⟨rfl, rfl, abreast⟩ | ⟨e, e', alike, rfl, rfl, parted⟩ := outcomes
  · subst conducted conducted'
    exact .inl ⟨rfl, (abreast.trans finished.2).agree agree⟩
  · -- a session that also fails to end says so in both logs
    have parted := parted.trans finished.2
    cases report with
    | ok report =>
      subst conducted conducted'
      obtain ⟨before, before', after, after', split, split', agrees⟩ := parted.split agree
      exact .inr ⟨e, e', before, before', after, after', alike, rfl, rfl, split, split', agrees⟩
    | error lost =>
      have noted := venue.noting finished.1
        (.same ("Session shutdown also failed: " ++ (Venue.unfinished lost).text))
      subst conducted conducted'
      obtain ⟨before, before', after, after', split, split', agrees⟩ :=
        (parted.trans noted.2).split agree
      exact .inr ⟨e, e', before, before', after, after', alike, rfl, rfl, split, split', agrees⟩

/-- What the logs of two sessions disclose of the payloads of their drivers: the logs agree line by line
just if the sessions end the same, and if they do not, both have refused a payload that is no scalar, and
but for the line that shows it their logs agree. -/
structure Discloses (log : σ → List String) (name : String) (c c' : Conducted σ Unit) : Prop where
  agree_iff : List.Forall₂ Agree (log c.stage) (log c'.stage) ↔ c.result = c'.result
  otherwise : c.result = c'.result ∨ ∃ (command : Command) (value value' : Json.Value),
    scalarText? value = none ∧ scalarText? value' = none ∧
    c.result = .error (driverFailure name (refusal command value)) ∧
    c'.result = .error (driverFailure name (refusal command value')) ∧
    ∃ before before' after after',
      log c.stage = before ++ ("Driver failed: driver " ++ name ++ " failed: driver protocol error: " ++
        command.name ++ " needs a scalar value, got " ++ value.render) :: after ∧
      log c'.stage = before' ++ ("Driver failed: driver " ++ name ++ " failed: driver protocol error: " ++
        command.name ++ " needs a scalar value, got " ++ value'.render) :: after' ∧
      List.Forall₂ Agree before before' ∧ List.Forall₂ Agree after after'

theorem agree_refusals {name : String} {command : Command} {value value' : Json.Value} :
    Agree (failureLine name (refusal command value)) (failureLine name (refusal command value')) ↔
      driverFailure name (refusal command value) = driverFailure name (refusal command value') := by
  constructor
  · intro agree
    have same : failureLine name (refusal command value') = failureLine name (refusal command value) :=
      agree_failed agree
    rw [failureLine_refusal, failureLine_refusal, String.append_right_inj] at same
    rw [refusal, refusal, same]
  · intro same
    delta failureLine
    rw [same]
    exact .same _

theorem discloses_twins (venue : v.Twins log R) (twins : r.Twins log log' R S) (twin : Live.Twin R l l')
    (agree : List.Forall₂ Agree (log l.stage) (log l'.stage)) (stage stage' : σ) (name : String) :
    Discloses log name (v.conduct stage (.ok l) name (r.driver v name))
      (v.conduct stage' (.ok l') name (r.driver v name)) := by
  obtain ⟨same, agree⟩ | ⟨e, e', before, before', after, after', alike, result, result', split, split',
    first, rest⟩ := conduct_twins venue twins twin agree stage stage' name rfl rfl
  · exact ⟨⟨fun _ => same, fun _ => agree⟩, .inl same⟩
  · cases alike with
    | same =>
      have same := result.trans result'.symm
      refine ⟨⟨fun _ => same, fun _ => ?_⟩, .inl same⟩
      rw [split, split']
      exact (agree_split first rest).mpr (.same _)
    | @refused command value value' unfit unfit' =>
      refine ⟨?_, .inr ⟨command, value, value', unfit, unfit', result, result', before, before', after,
        after', ?_, ?_, first, rest⟩⟩
      · rw [split, split', agree_split first rest, agree_refusals, result, result', Except.error.injEq]
      · rw [split, failureLine_refusal]
      · rw [split', failureLine_refusal]

end

/-! ### Replays -/

/-- Two sights that are the same but for the number of a process, or for the payload of a request. -/
inductive Sight.Alike : Sight → Sight → Prop where
  | same (sight : Sight) : Alike sight sight
  | started (pid pid' : Nat) : Alike (.started pid) (.started pid')
  | line {read read' : LineRead} (reads : ReadsAlike read read') :
      Alike (.line (some read)) (.line (some read'))

/-- Two steps of a record in which the same happened, or the same was met. -/
inductive Seen.Alike (marker : List Char) : Seen → Seen → Prop where
  | worked {old old' new new' : View} (becomes : old.Becomes new) (becomes' : old'.Becomes new')
      {happenings happenings' : List Happening} (same : new = old.after happenings)
      (same' : new' = old'.after happenings')
      (alike : List.Forall₂ (Happening.Alike marker) happenings happenings') :
      Alike marker (.worked old new becomes) (.worked old' new' becomes')
  | met {sight sight' : Sight} (alike : sight.Alike sight') : Alike marker (.met sight) (.met sight')

inductive Told.Alike (marker : List Char) : Told → Told → Prop where
  | worked {happenings happenings' : List Happening}
      (alike : List.Forall₂ (Happening.Alike marker) happenings happenings') :
      Alike marker (.worked happenings) (.worked happenings')
  | met {sight sight' : Sight} (alike : sight.Alike sight') : Alike marker (.met sight) (.met sight')

/-- Of records that are alike there are accounts that are alike. -/
theorem alike_told {marker : List Char} {seen seen' : List Seen}
    (alike : List.Forall₂ (Seen.Alike marker) seen seen') :
    ∃ told told', List.Forall₂ Told.Tells told seen ∧ List.Forall₂ Told.Tells told' seen' ∧
      List.Forall₂ (Told.Alike marker) told told' := by
  induction alike with
  | nil => exact ⟨[], [], .nil, .nil, .nil⟩
  | cons first _ ih =>
    obtain ⟨told, told', tells, tells', alike⟩ := ih
    cases first with
    | @worked _ _ _ _ becomes becomes' happenings happenings' same same' happens =>
      exact ⟨.worked happenings :: told, .worked happenings' :: told', .cons (.worked becomes same) tells,
        .cons (.worked becomes' same') tells', .cons (.worked happens) alike⟩
    | @met sight sight' sights =>
      exact ⟨.met sight :: told, .met sight' :: told', .cons (.met sight) tells, .cons (.met sight') tells',
        .cons (.met sights) alike⟩

structure Replay.Alike (marker : List Char) (p p' : Replay) : Prop where
  view : p.view.Alike marker p'.view
  left : List.Forall₂ (Told.Alike marker) p.left p'.left

namespace Replay.Alike

variable {marker : List Char} {p p' : Replay}

theorem does (alike : Alike marker p p') {act act' : View → View}
    (acts : Together View.log (View.Alike marker) p.view p'.view (act p.view) (act' p'.view)) :
    Together Replay.log (Alike marker) p p' (p.does act) (p'.does act') :=
  ⟨⟨acts.1, alike.left⟩, acts.2⟩

theorem work (alike : Alike marker p p') : Together Replay.log (Alike marker) p p' p.work p'.work := by
  obtain ⟨view, left⟩ := p
  obtain ⟨view', left'⟩ := p'
  obtain ⟨views, lefts⟩ := alike
  cases lefts with
  | nil => exact ⟨⟨views, .nil⟩, .refl _ _⟩
  | cons first rest =>
    cases first with
    | worked happens =>
      have happened := views.after happens
      exact ⟨⟨happened.1, rest⟩, happened.2⟩
    | met sights => exact ⟨⟨views, .cons (.met sights) rest⟩, .refl _ _⟩

theorem sights (alike : Alike marker p p') : Option.Rel Sight.Alike p.sight? p'.sight? := by
  obtain ⟨view, left⟩ := p
  obtain ⟨view', left'⟩ := p'
  obtain ⟨-, lefts⟩ := alike
  cases lefts with
  | nil => exact .none
  | cons first rest =>
    cases first with
    | worked => exact .none
    | met sights => exact .some sights

theorem pass (alike : Alike marker p p') : Together Replay.log (Alike marker) p p' p.pass p'.pass := by
  obtain ⟨view, left⟩ := p
  obtain ⟨view', left'⟩ := p'
  obtain ⟨views, lefts⟩ := alike
  cases lefts with
  | nil => exact ⟨⟨views, .nil⟩, .refl _ _⟩
  | cons first rest =>
    cases first with
    | worked happens => exact ⟨⟨views, .cons (.worked happens) rest⟩, .refl _ _⟩
    | met sights => exact ⟨⟨views, rest⟩, .refl _ _⟩

/-- Others are at work, and then something is met. -/
theorem meets (alike : Alike marker p p') :
    Option.Rel Sight.Alike p.work.sight? p'.work.sight? ∧
      Together Replay.log (Alike marker) p p' p.work.pass p'.work.pass := by
  have worked := alike.work
  exact ⟨worked.1.sights, worked.trans worked.1.pass⟩

end Replay.Alike

/-- What depends neither on the number of a process nor on a payload is the same. -/
theorem met_alike {α : Type} {sight sight' : Option Sight} (sights : Option.Rel Sight.Alike sight sight')
    (read : Option Sight → α)
    (started : ∀ pid pid', read (some (.started pid)) = read (some (.started pid')))
    (lines : ∀ line line', read (some (.line (some line))) = read (some (.line (some line')))) :
    read sight = read sight' := by
  cases sights with
  | none => rfl
  | some sights =>
    cases sights with
    | same => rfl
    | started pid pid' => exact started pid pid'
    | line => exact lines _ _

theorem lineMet_alike {sight sight' : Option Sight} (sights : Option.Rel Sight.Alike sight sight') :
    Option.Rel ReadsAlike (lineMet sight) (lineMet sight') := by
  have same (read : Option LineRead) : Option.Rel ReadsAlike read read := by
    cases read with
    | none => exact .none
    | some read => exact .some (.same read)
  cases sights with
  | none => exact .none
  | some sights =>
    cases sights with
    | same => exact same _
    | started => exact .none
    | line reads => exact .some reads

theorem replay_venue_twins (marker : List Char) : Replay.venue.Twins Replay.log (Replay.Alike marker) where
  noted _ _ := rfl
  note note note' alike := ⟨alike.view.note note note', alike.left⟩
  stats alike := alike.view.bridge.stats
  closeInput alike := alike.does alike.view.closeInput
  awaitDrain _ alike :=
    ⟨met_alike alike.meets.1 (fun sight => decide (sight = some (.waited true))) (by simp) (by simp),
      alike.meets.2⟩
  endEngine alike := ⟨alike, .refl _ _⟩
  stopDrain alike := alike.does alike.view.stopDrain
  leaveDrain alike := alike.does alike.view.leaveDrain
  joinDrain alike := ⟨alike.work.1.view.counts, alike.work⟩
  dismiss alike := ⟨alike.work.1.view.exit, alike.work⟩
  joinLogger alike := alike.work

theorem replay_reception_twins (marker : List Char) (name : String) :
    (Replay.reception name).Twins Replay.log Replay.log (Replay.Alike marker) (Replay.Alike marker) where
  noted _ _ := rfl
  start {p p'} alike := by
    have worked := alike.work
    obtain ⟨sights, met⟩ := alike.meets
    have begun (pid pid' : Nat) : Together Replay.log (Replay.Alike marker) p p'
        (p.work.pass.does fun v => v.note (startedNote pid name))
        (p'.work.pass.does fun v => v.note (startedNote pid' name)) :=
      met.trans ⟨⟨met.1.view.note _ _, met.1.left⟩, _, _, rfl, rfl, (Agree.started pid pid' name).event⟩
    simp only [Replay.reception]
    generalize p.work.sight? = now at sights ⊢
    generalize p'.work.sight? = now' at sights ⊢
    cases sights with
    | none => exact .inr ⟨_, _, rfl, rfl, worked⟩
    | some sights =>
      cases sights with
      | same =>
        rename_i sight
        cases sight with
        | unstarted e => exact .inl ⟨e, _, _, rfl, rfl, met⟩
        | started pid => exact .inr ⟨_, _, rfl, rfl, begun pid pid⟩
        | _ => exact .inr ⟨_, _, rfl, rfl, worked⟩
      | started pid pid' => exact .inr ⟨_, _, rfl, rfl, begun pid pid'⟩
      | line => exact .inr ⟨_, _, rfl, rfl, worked⟩
  nextLine alike := ⟨lineMet_alike alike.meets.1, alike.meets.2⟩
  ready _ _ alike := alike.work
  perform {p p' call call'} calls alike := by
    have fault := met_alike alike.sights faultMet (fun _ _ => rfl) fun _ _ => rfl
    obtain ⟨replies, called⟩ := alike.view.call (faultMet p'.sight?) calls
    simp only [Replay.reception, fault]
    exact ⟨replies, ⟨called.1, alike.pass.1.left⟩, called.2⟩
  note note note' alike := ⟨alike.view.note note note', alike.left⟩
  write _ _ alike :=
    ⟨met_alike alike.meets.1 (fun sight => decide (sight = some (.wrote true))) (by simp) (by simp),
      alike.meets.2⟩
  hangUp alike := ⟨alike, .refl _ _⟩
  stop _ alike := ⟨met_alike alike.meets.1 exitMet (fun _ _ => rfl) fun _ _ => rfl, alike.meets.2⟩

/-- What two sessions disclose of their payloads around which the same happens. -/
theorem discloses_alike {σ τ : Type} {v : Venue σ} {r : Reception σ τ} {name : String}
    (o : Outlook v r name) {marker : List Char} {l l' : Live σ}
    (twin : Live.Twin (fun s s' => (o.view s).Alike marker (o.view s')) l l')
    (agree : List.Forall₂ Agree (o.view l.stage).log (o.view l'.stage).log) (stage stage' : σ)
    (alike : List.Forall₂ (Seen.Alike marker) (o.sights l) (o.sights l')) :
    Discloses (fun s => (o.view s).log) name (v.conduct stage (.ok l) name (r.driver v name))
      (v.conduct stage' (.ok l') name (r.driver v name)) := by
  obtain ⟨told, told', tells, tells', alike⟩ := alike_told alike
  have twin : Live.Twin (Replay.Alike marker) (l.on ⟨o.view l.stage, told⟩)
      (l'.on ⟨o.view l'.stage, told'⟩) :=
    ⟨⟨twin.stage, alike⟩, twin.state, twin.history, twin.shutdownGrace⟩
  have replayed := discloses_twins (replay_venue_twins marker) (replay_reception_twins marker name) twin agree
    ⟨o.view stage, []⟩ ⟨o.view stage', []⟩ name
  rw [conduct_replayed o stage l rfl tells, conduct_replayed o stage' l' rfl tells'] at replayed
  exact ⟨replayed.agree_iff, replayed.otherwise⟩

end PartyBridge.Session
