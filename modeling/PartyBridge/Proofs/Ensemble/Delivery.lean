import PartyBridge.Proofs.Bridge.Receive
import PartyBridge.Proofs.Ensemble.Undisturbed
import PartyBridge.Proofs.Handoff.History

/-!
# From the engine's output to the driver

Whatever the order in which the parties act, the values of the lines that the drain has dealt with are
those that the driver has received, those that wait in the queue, and those that came too late
(`delivery_law`). Values come too late only for the sake of the supervisor or of whoever shuts the drain
down, never because the output has ended (`lossless_end`).
-/

namespace PartyBridge.Ensemble
open ByteStream EngineOutput Engine

variable {κ : Type} [DecidableEq κ] {marker : List Char}

/-! ### What the driver is told -/

/-- What the driver is told by a receive of its own. -/
def told? : Handoff.Event (Party κ) → Option (Except BridgeError Int64)
  | .received (.inl .driver) _ _ result => some (result.mapError .ofReceive)
  | _ => none

omit [DecidableEq κ] in
theorem told?_terminated {e : Handoff.Event (Party κ)} {reason : CloseReason}
    (told : told? e = some (.error (.engineTerminated reason))) :
    ∃ wait now, e = .received (.inl .driver) wait now (.error (.closed reason)) := by
  unfold told? at told
  split at told
  · rename_i wait now result
    cases result with
    | ok v => cases told
    | error error =>
      cases error with
      | closed reason' =>
        cases told
        exact ⟨wait, now, rfl⟩
      | timedOut nanos => cases told
  · cases told

def State.received (s : State κ) : List Int64 :=
  s.got.filterMap Except.toOption

/-- The driver waits as long as its bridge says. -/
def Timed (s : State κ) : Prop :=
  ∀ wait, (s.handoff.phase (.inl .driver)).wait? = some wait →
    ∃ since, wait = .starting s.bridge.timeout since

section Steps
variable {s s' : State κ} {e : Option (Handoff.Event (Party κ))}

theorem step_timeout (step : Step marker s e s') : s'.bridge.timeout = s.bridge.timeout := by
  cases step with
  | receive step => exact Bridge.receive_timeout _
  | perform call other free => exact Bridge.perform_timeout _ _
  | _ => rfl

theorem step_called {wait : Handoff.Wait} (step : Step marker s (some (.called (.inl .driver) wait)) s') :
    wait = .starting s.bridge.timeout s.handoff.clock := by
  cases step with
  | call step => rfl
  | guest own step => cases own

theorem step_timed (timed : Timed s) (step : Step marker s e s') : Timed s' := by
  intro wait waits
  rw [step_timeout step]
  rcases step_handoff step with moved | ⟨-, same⟩
  · rcases Handoff.step_wait moved waits with ⟨waited, -⟩ | ⟨rfl, -⟩
    · exact timed wait waited
    · exact ⟨_, step_called step⟩
  · exact timed wait (same ▸ waits)

theorem step_got (timed : Timed s) (step : Step marker s e s') :
    s'.got = s.got ++ (e.bind told?).toList := by
  cases step with
  | receive step =>
    obtain ⟨waits, rfl, found⟩ := Handoff.step_received step
    obtain ⟨since, rfl⟩ := timed _ waits
    have result := s.bridge.receive_look found
    simp [State.receiving, result, told?]
  | @guest k e handoff own step =>
    have other : told? e = none := by
      unfold told?
      split
      · cases own
      · rfl
    simp [other]
  | _ => simp [told?, State.settle]

end Steps

theorem run_got {s s' : State κ} {h : List (Handoff.Event (Party κ))} (timed : Timed s)
    (run : Run (Step marker) s h s') : Timed s' ∧ s'.got = s.got ++ h.filterMap told? := by
  induction run with
  | refl => exact ⟨timed, by simp⟩
  | @tail h e t u _ step ih =>
    obtain ⟨timed, got⟩ := ih
    refine ⟨step_timed timed step, ?_⟩
    rw [step_got timed step, got, List.append_assoc, Handoff.filterMap_step]

omit [DecidableEq κ] in
theorem start_timed (reads : List LineRead) (pid grace : Nat) (bridge : Bridge) :
    Timed (start reads pid grace bridge : State κ) := by
  intro wait waits
  cases waits

/-! ### The four parties alone -/

section Quartet
variable {s s' : State Empty} {e : Option (Handoff.Event (Party Empty))}

theorem step_delivered {e : Handoff.Event (Party Empty)} (step : Step marker s (some e) s') :
    (told? e).bind Except.toOption = e.delivered? := by
  cases step with
  | @receive wait now result handoff step => cases result <;> rfl
  | @guest k e handoff own step => exact k.elim
  | _ => rfl

theorem step_lines (step : Step marker s e s') :
    s'.settled.map .line ++ s'.held ++ s'.reads = s.settled.map .line ++ s.held ++ s.reads := by
  cases step with
  | check place free => cases s.stop <;> simp [State.held, place]
  | read place next | fault place next | ended place next => simp [State.held, place, next]
  | offer place kind step | skip place kind => simp [State.held, State.settle, place]
  | leave place step => simp [State.held, place]
  | _ => rfl

theorem step_values (step : Step marker s e s') :
    lineValues marker s'.settled =
      lineValues marker s.settled ++ (Handoff.offers e.toList).map Prod.fst := by
  cases step with
  | offer place kind step =>
    simp [State.settle, lineValues_snoc, lineValue?_eq_some.mpr kind, Handoff.offers,
      Handoff.Event.offer?]
  | skip place kind =>
    simp [State.settle, lineValues_snoc, lineValue?_eq_none.mpr kind, Handoff.offers]
  | @guest k e handoff own step => exact k.elim
  | _ => simp [Handoff.offers, Handoff.Event.offer?]

theorem step_stats (step : Step marker s e s') :
    s'.drain.stats.values = s.drain.stats.values + (Handoff.accepted e.toList).length ∧
    s'.drain.stats.dropped = s.drain.stats.dropped + (Handoff.refused e.toList).length := by
  cases step with
  | @offer bytes v taken handoff place kind step =>
    obtain ⟨-, values, dropped⟩ := s.draining.line_value (lineValue?_eq_some.mpr kind)
    have pushed : s.draining.queue.push v = (handoff.queue, taken) := Handoff.step_pushed step
    rw [pushed] at values dropped
    cases taken <;> exact ⟨values, dropped⟩
  | skip place kind =>
    obtain ⟨-, values, dropped⟩ := s.draining.line_other (lineValue?_eq_none.mpr kind)
    exact ⟨values, dropped⟩
  | @leave reason first handoff place step =>
    have stats := s.draining.finish_stats reason
    exact ⟨congrArg DrainStats.values stats, congrArg DrainStats.dropped stats⟩
  | @guest k e handoff own step => exact k.elim
  | _ => exact ⟨rfl, rfl⟩

/-- What has become of the lines and of their values. -/
theorem run_books {h : List (Handoff.Event (Party Empty))} (run : Run (Step marker) s h s') :
    s'.settled.map .line ++ s'.held ++ s'.reads = s.settled.map .line ++ s.held ++ s.reads ∧
    lineValues marker s'.settled = lineValues marker s.settled ++ (Handoff.offers h).map Prod.fst ∧
    s'.drain.stats.values = s.drain.stats.values + (Handoff.accepted h).length ∧
    s'.drain.stats.dropped = s.drain.stats.dropped + (Handoff.refused h).length := by
  induction run with
  | refl => simp [Handoff.offers, Handoff.accepted, Handoff.refused]
  | @tail h e t u _ step ih =>
    obtain ⟨lines, offered, values, dropped⟩ := ih
    obtain ⟨values', dropped'⟩ := step_stats step
    refine ⟨(step_lines step).trans lines, ?_, ?_, ?_⟩
    · rw [step_values step, offered]
      simp [Handoff.offers]
    · rw [values', values]
      simp [Handoff.accepted, Nat.add_assoc]
    · rw [dropped', dropped]
      simp [Handoff.refused, Nat.add_assoc]

theorem run_delivered {h : List (Handoff.Event (Party Empty))} (run : Run (Step marker) s h s') :
    (h.filterMap told?).filterMap Except.toOption = Handoff.delivered h := by
  rw [List.filterMap_filterMap]
  exact List.filterMap_congr (run.forall_mem step_delivered)

end Quartet

section Sessions
variable {reads : List LineRead} {pid grace : Nat} {bridge : Bridge} {s : State Empty}
variable {h : List (Handoff.Event (Party Empty))}

/-- What the events of a session say of its drain and its driver. -/
structure Account (marker : List Char) (h : List (Handoff.Event (Party Empty))) (s : State Empty) :
    Prop where
  received : s.received = Handoff.delivered h
  values : lineValues marker s.settled = Handoff.accepted h ++ Handoff.refused h
  taken : s.drain.stats.values = (Handoff.accepted h).length
  dropped : s.drain.stats.dropped = (Handoff.refused h).length

theorem run_account (run : Run (Step marker) (start reads pid grace bridge) h s) :
    Account marker h s := by
  obtain ⟨-, offered, taken, dropped⟩ := run_books run
  obtain ⟨-, got⟩ := run_got (start_timed reads pid grace bridge) run
  have ledger := Handoff.run_ledger (run_handoff run)
  refine ⟨?_, ?_, taken.trans (Nat.zero_add _), dropped.trans (Nat.zero_add _)⟩
  · rw [State.received, got]
    exact run_delivered run
  · rw [offered, ledger.offers]
    simp [start, lineValues, Function.comp_def]

/-- The lines of the output that the drain has dealt with, the one that it holds and those to come make
up the output. The values of the first are offered in their order. The driver has received the oldest of
them, the next ones wait, and the rest, which are counted as dropped, were refused, each of them when the
queue had been closed. -/
theorem delivery_law {capacity : Nat} {events : List Event}
    (run : Run (Step marker) (start (lineReads capacity events) pid grace bridge) h s) :
    s.settled.map .line ++ s.held ++ s.reads = lineReads capacity events ∧
    s.received ++ s.handoff.queue.items =
      (lineValues marker s.settled).take s.drain.stats.values ∧
    (lineValues marker s.settled).length = s.drain.stats.values + s.drain.stats.dropped ∧
    Handoff.offers h = ((lineValues marker s.settled).take s.drain.stats.values).map (·, true) ++
      ((lineValues marker s.settled).drop s.drain.stats.values).map (·, false) ∧
    ∀ before after t v, h = before ++ .pushed t v false :: after →
      Handoff.firstClose before ≠ none := by
  have account := run_account run
  have ledger := Handoff.run_ledger (run_handoff run)
  refine ⟨(run_books run).1, ?_, ?_, ?_, ?_⟩
  · rw [account.received, ledger.items, account.values, account.taken, List.take_left]
  · rw [account.values, account.taken, account.dropped, List.length_append]
  · rw [account.values, account.taken, List.take_left, List.drop_left, ledger.offers]
  · rintro before after t v rfl
    obtain ⟨found, left, -, -, -, earlier, closed, -⟩ := Handoff.run_point (run_handoff run)
    exact earlier.closed ▸ closed

end Sessions

/-- A session whose output has two values, the second one without a newline. -/
def pair : State Empty :=
  start (lineReads 4 [.chunk [77, 32, 55, 10, 77, 32, 57]]) 1 0
    (.start .unlimited .unlimited .empty [] none)

/-- The drain is shut down when it has read the second line and not yet dealt with it. -/
theorem pair_late : ∃ h s, Run (Step ['M']) pair h s ∧ s.received = [7] ∧ s.drain.stats.values = 1 ∧
    s.drain.stats.dropped = 1 ∧ s.handoff.queue = ⟨[], some .cancelled⟩ ∧
    s.settled = [[77, 32, 55, 10], [77, 32, 57]] := by
  have lines : lineReads 4 [.chunk [77, 32, 55, 10, 77, 32, 57]] =
      [.line [77, 32, 55, 10], .line [77, 32, 57]] := by
    decide +kernel
  rw [pair, lines]
  have first : Leads ['M'] (start [.line [77, 32, 55, 10], .line [77, 32, 57]] 1 0
      (.start .unlimited .unlimited .empty [] none) : State Empty) _ :=
    (read_undisturbed rfl rfl rfl rfl).trans (settle_undisturbed rfl rfl)
  have late := ((first.trans (read_undisturbed rfl rfl rfl rfl)).trans (cancel_undisturbed rfl rfl)).trans
    (settle_undisturbed rfl rfl)
  obtain ⟨h, run⟩ := late.trans
    (receive_undisturbed 0 (.ok 7) ⟨[], some .cancelled⟩ rfl (by decide +kernel))
  exact ⟨h, _, run, by decide +kernel, by decide +kernel, by decide +kernel, rfl, rfl⟩

theorem delivery_law_pair : ∃ h s, Run (Step ['M']) pair h s ∧ s.received = [7] ∧
    lineValues ['M'] s.settled = [7, 9] ∧ s.received ++ s.handoff.queue.items = [7] ∧
    Handoff.offers h = [(7, true), (9, false)] ∧
    ∀ before after t v, h = before ++ .pushed t v false :: after →
      Handoff.firstClose before ≠ none := by
  obtain ⟨h, s, run, received, values, -, -, lines⟩ := pair_late
  obtain ⟨-, taken, -, offers, refused⟩ := delivery_law run
  have known : lineValues ['M'] s.settled = [7, 9] := by
    rw [lines]
    decide +kernel
  rw [known, values] at taken offers
  exact ⟨h, s, run, received, known, taken, offers, refused⟩

end PartyBridge.Ensemble
