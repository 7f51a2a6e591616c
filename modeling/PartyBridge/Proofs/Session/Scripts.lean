import PartyBridge.Proofs.Session.Disclosure

/-!
# What a session with a script discloses

A session with a script shows in its log, without content, none of the payloads that its driver wants to
have sent or shown, except for one that is refused since it is no scalar
(`log_shows_refused_payloads_only`).
-/

namespace PartyBridge.Session
open Journal Driver ByteStream Engine EngineOutput

def scripted (script : Script) (stage : Stage) : Stage × Unit × Except Failure Unit :=
  let (stage, result) := runDriver stage script
  (stage, (), result.mapError fun e => .ofOrigin (.driver e))

theorem scripted_eq (script : Script) :
    scripted script = (Stage.reception script).driver Stage.venue script.describe := by
  funext stage
  rw [scripted, runDriver_eq]
  rfl

/-- What a session with a script sees, if it can be launched. -/
def Stage.sights (st : Stage) (command : Invocation) (choices : Choices) (script : Script) :
    Except LaunchError (List Seen) :=
  (Live.launch st command choices).map (outlook script).sights

/-- Two sessions see the same but for payloads, or neither can be launched, for the same reason. -/
inductive SightsAlike (marker : List Char) :
    Except LaunchError (List Seen) → Except LaunchError (List Seen) → Prop where
  | unlaunched (e : LaunchError) : SightsAlike marker (.error e) (.error e)
  | seen {sights sights' : List Seen} (alike : List.Forall₂ (Seen.Alike marker) sights sights') :
      SightsAlike marker (.ok sights) (.ok sights')

/-- The view of a session whose engine has just been launched. -/
theorem launch_view {stage : Stage} {command : Invocation} {choices : Choices} {l : Live Stage}
    (launched : Live.launch stage command choices = .ok l) :
    (∃ pid clock, l.stage.view = {
      clock
      bridge := { stage.called.facing none with timeout := choices.receiveTimeout.map nanos }
      drain := some (choices.marker.toList, .start .empty)
      diagnostics := some (.start, false)
      supervisor := some (.start pid (nanos choices.exitCloseGrace))
      log := stage.debugLog ++
        ["Engine launched (pid " ++ Text.decimalNat pid ++ "): " ++ command.text,
          "Session state: not_started -> engine_running",
          "Session state: engine_running -> drainer_running"] }) ∧
    l.state = .drainerRunning ∧ l.history = [.drainerRunning, .engineRunning, .notStarted] ∧
    l.shutdownGrace = choices.shutdownGrace := by
  unfold Live.launch at launched
  split at launched
  · cases launched
  · rename_i machine engine started
    cases launched
    refine ⟨⟨engine.pid, machine.clock, ?_⟩, rfl, rfl, rfl⟩
    have log := debugLog_logAll stage [event "Session state: engine_running -> drainer_running",
      event "Session state: not_started -> engine_running",
      event ("Engine launched (pid " ++ Text.decimalNat engine.pid ++ "): " ++ command.text)]
    exact congrArg (View.mk _ _ _ _ _) log

theorem launch_twins {stage stage' : Stage} {command : Invocation} {choices : Choices}
    {l l' : Live Stage} (begun : List.Forall₂ Agree stage.debugLog stage'.debugLog)
    (bridges : stage.called.Alike stage'.called)
    (launched : Live.launch stage command choices = .ok l)
    (launched' : Live.launch stage' command choices = .ok l') :
    Live.Twin (fun s s' => s.view.Alike choices.marker.toList s'.view) l l' ∧
      List.Forall₂ Agree l.stage.view.log l'.stage.view.log := by
  obtain ⟨⟨pid, clock, view⟩, state, history, grace⟩ := launch_view launched
  obtain ⟨⟨pid', clock', view'⟩, state', history', grace'⟩ := launch_view launched'
  refine ⟨⟨?_, state.trans state'.symm, history.trans history'.symm, grace.trans grace'.symm⟩, ?_⟩
  · rw [view, view']
    refine ⟨?_, rfl, rfl, ?_, rfl, .some ⟨rfl, .nil⟩⟩
    · exact ⟨bridges.isOpen, bridges.size, bridges.closed, bridges.answers, bridges.stats, bridges.told⟩
    · rintro d ⟨⟩
      exact ⟨rfl, rfl⟩
  · rw [view, view']
    exact List.rel_append begun
      (.cons (.launched pid pid' command.text) (.cons (.same _) (.cons (.same _) .nil)))

/-- Take two sessions with a script that begin alike, and around which the same happens, up to times, the
numbers of processes, the values of the engine and what its diagnostics say, except that the payloads that
their drivers want to have sent or shown may differ, each of them a scalar in both or in none. Where content is
not logged, their logs agree line by line just if the sessions end the same. Otherwise both have refused a
payload that is no scalar, and but for the line that shows it their logs agree. -/
theorem log_shows_refused_payloads_only (script : Script) (command : Invocation) (choices : Choices)
    (stage stage' : Stage) (begun : List.Forall₂ Agree stage.debugLog stage'.debugLog)
    (bridges : stage.called.Alike stage'.called)
    (alike : SightsAlike choices.marker.toList (stage.sights command choices script)
      (stage'.sights command choices script)) :
    Discloses Stage.debugLog script.describe
      (conduct stage command choices script.describe (scripted script))
      (conduct stage' command choices script.describe (scripted script)) := by
  unfold Stage.sights at alike
  unfold conduct
  rw [scripted_eq]
  cases launched : Live.launch stage command choices with
  | error e =>
    cases launched' : Live.launch stage' command choices with
    | error e' =>
      rw [launched, launched'] at alike
      cases alike
      exact ⟨⟨fun _ => rfl, fun _ => begun⟩, .inl rfl⟩
    | ok l' =>
      rw [launched, launched'] at alike
      cases alike
  | ok l =>
    cases launched' : Live.launch stage' command choices with
    | error e' =>
      rw [launched, launched'] at alike
      cases alike
    | ok l' =>
      rw [launched, launched'] at alike
      cases alike with
      | seen alike =>
        obtain ⟨twin, agree⟩ := launch_twins begun bridges launched launched'
        exact discloses_alike (Stage.outlook script) twin agree stage stage' alike

/-! ### Payloads in a file -/

theorem Happening.Alike.refl (marker : List Char) (happening : Happening) :
    happening.Alike marker happening := by
  have kind (line : Bytes) : SameKind marker line line := by
    unfold SameKind
    cases lineKind marker line with
    | value v => exact .value v v
    | malformed => exact .malformed
    | untagged => exact .untagged
  cases happening with
  | passed clock => exact .passed clock clock
  | output lines ended => exact .output (List.forall₂_same.mpr fun line _ => kind line) ended
  | diagnostics lines ended => exact .diagnostics rfl ended
  | answered answer => exact .answered answer

/-- What a view shows that came from another, and what was logged meanwhile. -/
def View.since (old new : View) : View :=
  { new with log := new.log.drop old.log.length }

theorem View.behind_since (old : View) : (old.since old).behind old.log = old := by
  simp [View.since, View.behind]

theorem View.after_since (old : View) (happenings : List Happening) :
    old.after happenings = ((old.since old).after happenings).behind old.log := by
  rw [← View.after_behind, View.behind_since]

theorem View.since_after (old : View) (happenings : List Happening) :
    old.since (old.after happenings) = (old.since old).after happenings := by
  rw [View.after_since]
  simp [View.since, View.behind]

/-- What made one view another makes of a view the same whatever was logged before. -/
theorem View.after_of_since {old old' new' : View} {happenings : List Happening} (becomes : old'.Becomes new')
    (before : old.since old = old'.since old')
    (after : old.since (old.after happenings) = old'.since new') : new' = old'.after happenings := by
  obtain ⟨happenings', rfl⟩ := becomes
  rw [View.since_after, View.since_after, before] at after
  rw [View.after_since old' happenings, after, ← View.after_since]

/-- Whether two steps of a record can be seen to be alike. -/
def Seen.resembles : Seen → Seen → Bool
  | .worked old new _, .worked old' new' _ =>
    old.since old = old'.since old' && old.since new = old'.since new'
  | .met (.line (some read)), .met (.line (some read')) =>
    (payloadKind? read).isSome && payloadKind? read = payloadKind? read'
  | .met sight, .met sight' => sight = sight'
  | _, _ => false

theorem Seen.Alike.of_resembles (marker : List Char) {seen seen' : Seen} (resembles : seen.resembles seen') :
    seen.Alike marker seen' := by
  unfold Seen.resembles at resembles
  split at resembles
  · rename_i old new becomes old' new' becomes'
    simp only [Bool.and_eq_true, decide_eq_true_eq] at resembles
    have ⟨happenings, same⟩ := becomes
    subst same
    exact .worked _ _ rfl (View.after_of_since becomes' resembles.1 resembles.2)
      (List.forall₂_same.mpr fun happening _ => .refl marker happening)
  · simp only [Bool.and_eq_true, decide_eq_true_eq] at resembles
    obtain ⟨known, same⟩ := resembles
    obtain ⟨kind, known⟩ := Option.isSome_iff_exists.mp known
    exact .met (.line (.of_kind known (same ▸ known)))
  · rw [of_decide_eq_true resembles]
    exact .met (.same _)
  · cases resembles

def resemble : Except LaunchError (List Seen) → Except LaunchError (List Seen) → Bool
  | .ok sights, .ok sights' =>
    sights.length = sights'.length && (sights.zip sights').all fun pair => pair.1.resembles pair.2
  | _, _ => false

theorem SightsAlike.of_resemble (marker : List Char) {sights sights' : Except LaunchError (List Seen)}
    (resembles : resemble sights sights') : SightsAlike marker sights sights' := by
  unfold resemble at resembles
  split at resembles
  · simp only [Bool.and_eq_true, decide_eq_true_eq, List.all_eq_true] at resembles
    exact .seen (List.forall₂_iff_zip.mpr ⟨resembles.1, fun member =>
      .of_resembles marker (resembles.2 _ member)⟩)
  · cases resembles

/-- A stage with an engine, and with a file that a driver may read out. -/
def filed (said : String) : Stage :=
  let entries := [([[101]], .tool "echo"), ([[99]], .tool "cat"), ([[100]], .file 0), ([[48]], .file 1),
    ([[112]], .file 1)]
  ⟨.quiet (.boot ⟨entries, #[⟨said.toUTF8, false, 0⟩, ⟨.empty, false, 0⟩]⟩) .empty,
    .start .unlimited .unlimited .empty [] none, none, none, ⟨[], []⟩⟩

theorem filed_called (said said' : String) : (filed said).called.Alike (filed said').called :=
  ⟨rfl, rfl, rfl, rfl, rfl, .nil⟩

def reader : Script :=
  ⟨[47, 100], some ["/c"], 0, "p"⟩

def readOut (said : String) : Conducted Stage Unit :=
  conduct (filed said) ⟨"/e", []⟩ ⟨"M", none, none, 0⟩ reader.describe (scripted reader)

def showing (value : String) : String :=
  "\x7b\"cmd\":\"user_output\",\"value\":" ++ value ++ "\x7d\n"

theorem eq_of_toOption {ε α : Type} {result result' : Except ε α}
    (same : result.toOption.isSome ∧ result.toOption = result'.toOption) : result = result' := by
  cases result <;> cases result' <;> simp_all [Except.toOption]

/-- A number and a word that are shown leave the same log. -/
theorem log_shows_refused_payloads_only_scalars :
    SightsAlike ['M']
      ((filed (showing "5")).sights ⟨"/e", []⟩ ⟨"M", none, none, 0⟩ reader)
      ((filed (showing "\"secret\"")).sights ⟨"/e", []⟩ ⟨"M", none, none, 0⟩ reader) ∧
    (readOut (showing "5")).result = (readOut (showing "\"secret\"")).result ∧
    List.Forall₂ Agree (readOut (showing "5")).stage.debugLog
      (readOut (showing "\"secret\"")).stage.debugLog := by
  have alike : SightsAlike ['M']
      ((filed (showing "5")).sights ⟨"/e", []⟩ ⟨"M", none, none, 0⟩ reader)
      ((filed (showing "\"secret\"")).sights ⟨"/e", []⟩ ⟨"M", none, none, 0⟩ reader) :=
    .of_resemble _ (by decide +kernel)
  have same : (readOut (showing "5")).result = (readOut (showing "\"secret\"")).result :=
    eq_of_toOption (by decide +kernel)
  have discloses : Discloses Stage.debugLog reader.describe (readOut (showing "5"))
      (readOut (showing "\"secret\"")) :=
    log_shows_refused_payloads_only reader ⟨"/e", []⟩ ⟨"M", none, none, 0⟩ (filed _) (filed _) .nil
      (filed_called _ _) alike
  exact ⟨alike, same, discloses.agree_iff.mpr same⟩

/-- Two sessions that see the same but for the payloads of their drivers, none of them a scalar, leave logs
that do not agree: a payload stands in the one that refused it. -/
theorem refused_payload_logged :
    SightsAlike ['M']
      ((filed (showing "[\"secret\"]")).sights ⟨"/e", []⟩ ⟨"M", none, none, 0⟩ reader)
      ((filed (showing "[5]")).sights ⟨"/e", []⟩ ⟨"M", none, none, 0⟩ reader) ∧
    "Driver failed: driver /d failed: driver protocol error: user_output needs a scalar value, got [\"secret\"]" ∈
      (readOut (showing "[\"secret\"]")).stage.debugLog ∧
    ¬List.Forall₂ Agree (readOut (showing "[\"secret\"]")).stage.debugLog
      (readOut (showing "[5]")).stage.debugLog := by
  have shows : "Driver failed: " ++ "driver /d failed: driver protocol error: " ++
      "user_output needs a scalar value, got [\"secret\"]" ∈
      (readOut (showing "[\"secret\"]")).stage.debugLog := by decide +kernel
  have hidden : "Driver failed: " ++ "driver /d failed: driver protocol error: " ++
      "user_output needs a scalar value, got [\"secret\"]" ∉
      (readOut (showing "[5]")).stage.debugLog := by decide +kernel
  -- a line that tells of a failure agrees with itself only, so it would stand in both logs
  refine ⟨.of_resemble _ (by decide +kernel), shows, fun agree => hidden ?_⟩
  rw [String.append_assoc] at shows ⊢
  exact agree_told agree shows

end PartyBridge.Session
