import PartyBridge.Proofs.Ensemble.Undisturbed
import PartyBridge.Proofs.Handoff.Wakeup

/-!
# No receiver is left waiting

When everybody has been told of what has happened and nobody has yet to look again, a receiver that is
parked has nothing to wait for but a value still to come. The drain and the supervisor close the queue
before they are done, and from then on no receiver stays parked.
-/

namespace PartyBridge.Engine.Supervisor

theorem answer_done {s : Supervisor} {a : Answer} {exit : Exit}
    (done : (s.answer a).phase = .done (some exit)) :
    s.phase = .done (some exit) ∨ s.ask = some (.close exit) := by
  unfold answer at done
  split at done
  all_goals simp_all [ask, enter]
  all_goals split at done
  all_goals simp_all

end PartyBridge.Engine.Supervisor

namespace PartyBridge.Ensemble
open ByteStream EngineOutput Engine

variable {κ : Type} [DecidableEq κ] {marker : List Char}

/-- The drain is at its end, or the supervisor has seen the end of the engine. -/
def Released (s : State κ) : Prop :=
  s.place = .finished ∨ ∃ exit, s.supervisor.phase = .done (some exit)

theorem step_released {s s' : State κ} {e : Option (Handoff.Event (Party κ))}
    (step : Step marker s e s') (released : Released s') :
    Released s ∨ ∃ t reason first, e = some (.closed t reason first) := by
  cases step with
  | leave place step | release ask step | cancel due step => exact .inr ⟨_, _, _, rfl⟩
  | hear answer free other =>
    rcases released with finished | ⟨exit, done⟩
    · exact .inl (.inl finished)
    · rcases Supervisor.answer_done done with before | asked
      · exact .inl (.inr ⟨exit, before⟩)
      · exact absurd asked (other exit)
  | check place free =>
    left
    rcases released with finished | done
    · dsimp only at finished
      split at finished <;> cases finished
    · exact .inr done
  | read place next | fault place next | ended place next | offer place kind step | skip place kind =>
    rcases released with finished | done
    · cases finished
    · exact .inl (.inr done)
  | _ => exact .inl released

theorem step_stays_closed {s s' : State κ} {e : Option (Handoff.Event (Party κ))}
    (step : Step marker s e s') (closed : s.handoff.queue.closed ≠ none) :
    s'.handoff.queue.closed ≠ none := by
  rcases step_handoff step with moved | ⟨-, same⟩
  · obtain ⟨reason, closed⟩ := Option.ne_none_iff_exists'.mp closed
    simp [Handoff.step_closed moved closed]
  · rwa [same]

theorem run_released {s : State κ} {reads : List LineRead} {pid grace : Nat} {bridge : Bridge}
    {h : List (Handoff.Event (Party κ))} (run : Run (Step marker) (start reads pid grace bridge) h s)
    (released : Released s) : s.handoff.queue.closed ≠ none := by
  induction run with
  | refl => simp [Released, start, Supervisor.start] at released
  | tail _ step ih =>
    rcases step_released step released with before | ⟨t, reason, first, rfl⟩
    · exact step_stays_closed step (ih before)
    · rcases step_handoff step with moved | ⟨none, -⟩
      · exact Handoff.step_shut moved
      · cases none

/-- In a session with any number of guests, who push, close and receive as they like: when nobody is
about to tell others of a change and no woken receiver has yet to look again, a parked receiver finds
the queue empty and open. Once the drain is at its end, or the supervisor has seen the end of the
engine, and everybody has been told, no receiver is parked. -/
theorem no_receiver_forgotten [Fintype κ] {s : State κ} {reads : List LineRead} {pid grace : Nat}
    {bridge : Bridge} {h : List (Handoff.Event (Party κ))}
    (run : Run (Step marker) (start reads pid grace bridge) h s) (told : Handoff.Told s.handoff) :
    (Handoff.Rested s.handoff → ∀ t wait, s.handoff.phase t = .parked wait →
      s.handoff.queue.items = [] ∧ s.handoff.queue.closed = none) ∧
    (s.place = .finished ∨ (∃ exit, s.supervisor.phase = .done (some exit)) →
      ∀ t wait, s.handoff.phase t ≠ .parked wait) := by
  have wakeful := Handoff.run_wakeful (run_handoff run)
  constructor
  · intro rested t wait parked
    rw [Handoff.wakeful_quiet wakeful told rested parked]
    exact ⟨rfl, rfl⟩
  · intro released
    exact Handoff.wakeful_closed wakeful told (run_released run released)

/-- A session without output in which receives wait for ever. -/
def silent : State Empty :=
  start [] 1 0 (.start .unlimited .unlimited .empty [] none)

theorem silent_parked : ∃ h, Run (Step []) silent h
    { silent with handoff := Handoff.solo .empty 0 (.inl .driver) (.parked .forever) } := by
  have call : Handoff.Step silent.handoff _ _ :=
    Handoff.solo_away .empty 0 (.inl .driver : Party Empty) ▸ Handoff.solo_move (.call none)
  have called : Run (Step []) silent _ { silent with handoff := _ } := Run.refl.event (.call call)
  exact ⟨_, called.quiet (.quiet (Handoff.solo_move (.park (.inl rfl) rfl)))⟩

theorem silent_released : ∃ h s, Run (Step []) silent h s ∧ s.place = .finished ∧
    s.handoff = Handoff.solo ⟨[], some .outputClosed⟩ 0 (.inl .driver) (.roused .forever) := by
  obtain ⟨h, parked⟩ := silent_parked
  have away : (Handoff.solo .empty 0 (.inl .driver : Party Empty) (.parked .forever)).phase
      (.inl .drainer) = .away := Handoff.solo_others _ _ _ (by decide)
  have ended := (parked.quiet (.check rfl away)).quiet (.ended rfl rfl)
  obtain ⟨told, close, tell⟩ := Handoff.solo_close .empty 0 (.inl .driver : Party Empty)
    (show .inl .drainer ≠ _ by decide) .forever .outputClosed rfl
  exact ⟨_, _, (ended.event (.leave rfl close)).trans (run_quiet tell), rfl, rfl⟩

theorem no_receiver_forgotten_silent :
    (∃ h s, Run (Step []) silent h s ∧ s.handoff.phase (.inl .driver) = .parked .forever ∧
      s.handoff.queue.items = [] ∧ s.handoff.queue.closed = none) ∧
    ∃ h s, Run (Step []) silent h s ∧ s.place = .finished ∧
      s.handoff.phase (.inl .driver) = .roused .forever ∧
      ∀ t wait, s.handoff.phase t ≠ .parked wait := by
  constructor
  · obtain ⟨h, run⟩ := silent_parked
    have here := Handoff.solo_cases .empty 0 (.inl .driver : Party Empty) (.parked .forever)
    refine ⟨h, _, run, Handoff.solo_phase .., (no_receiver_forgotten run ?_).1 ?_ _ _
      (Handoff.solo_phase ..)⟩
    · intro t audience telling
      rcases here t with phase | phase <;> cases phase.symm.trans telling
    · intro t wait roused
      rcases here t with phase | phase <;> cases phase.symm.trans roused
  · obtain ⟨h, s, run, finished, released⟩ := silent_released
    refine ⟨h, s, run, finished, released ▸ Handoff.solo_phase .., (no_receiver_forgotten run ?_).2
      (.inl finished)⟩
    rw [released]
    intro t audience telling
    rcases Handoff.solo_cases _ _ _ _ t with phase | phase <;> cases phase.symm.trans telling

end PartyBridge.Ensemble
