import PartyBridge.Proofs.Handoff.Callers
import PartyBridge.Proofs.Run

/-!
# Calls one at a time

Where nobody is in a call, a caller may push, close or receive from beginning to end before anybody else
does anything, and leaves nobody in a call. So whatever the queue's own functions do one after another
is a run of its callers.
-/

namespace PartyBridge.Handoff

variable {ι : Type}

/-- A queue at some time with nobody in a call. -/
def idle (queue : ValueQueue) (clock : Nat) : State ι :=
  ⟨queue, clock, fun _ => .away⟩

variable [DecidableEq ι]

/-- Nothing keeps a caller from telling the others. -/
theorem exists_told {s : State ι} {t : ι} {audience : Audience} (telling : s.phase t = .telling audience) :
    ∃ s', Step s none s' ∧ s'.phase t = .away := by
  cases audience with
  | one =>
    by_cases parked : ∃ u wait, s.phase u = .parked wait
    · obtain ⟨u, wait, parked⟩ := parked
      exact ⟨_, .tellOne telling parked, by simp [State.enter]⟩
    · simp only [not_exists] at parked
      exact ⟨_, .tellNobody telling parked, by simp [State.enter]⟩
  | all => exact ⟨_, .tellAll telling, by simp [State.enter]⟩

/-- A queue at some time with only one caller in a call. -/
def solo (queue : ValueQueue) (clock : Nat) (t : ι) (phase : Phase) : State ι :=
  (idle queue clock).enter t phase

theorem solo_phase (queue : ValueQueue) (clock : Nat) (t : ι) (phase : Phase) :
    (solo queue clock t phase).phase t = phase := by
  simp [solo, State.enter]

theorem solo_others (queue : ValueQueue) (clock : Nat) {t u : ι} (phase : Phase) (different : u ≠ t) :
    (solo queue clock t phase).phase u = .away := by
  simp [solo, State.enter, idle, different]

theorem solo_cases (queue : ValueQueue) (clock : Nat) (t : ι) (phase : Phase) (u : ι) :
    (solo queue clock t phase).phase u = phase ∨ (solo queue clock t phase).phase u = .away := by
  rcases eq_or_ne u t with rfl | different
  · exact .inl (solo_phase ..)
  · exact .inr (solo_others queue clock phase different)

theorem solo_away (queue : ValueQueue) (clock : Nat) (t : ι) :
    solo queue clock t .away = idle queue clock := by
  simp [solo, State.enter, idle]

theorem solo_enter (queue : ValueQueue) (clock : Nat) (t : ι) (before after : Phase) :
    (solo queue clock t before).enter t after = solo queue clock t after := by
  simp [solo, State.enter]

theorem solo_move {queue queue' : ValueQueue} {clock : Nat} {t : ι} {before after : Phase}
    {e : Option (Event ι)} (move : Move t queue clock before e queue' after) :
    Step (solo queue clock t before) e (solo queue' clock t after) := by
  rw [← solo_phase queue clock t before] at move
  have step := Step.move (s := solo queue clock t before) move
  rw [solo_enter] at step
  exact step

theorem solo_told (queue : ValueQueue) (clock : Nat) (t : ι) (audience : Audience) :
    Step (solo queue clock t (.telling audience)) none (idle queue clock) := by
  have speaker := solo_phase queue clock t (.telling audience)
  rw [← solo_away queue clock t, ← solo_enter queue clock t (.telling audience) .away]
  cases audience with
  | one =>
    refine .tellNobody speaker ?_
    intro u wait parked
    rcases eq_or_ne u t with rfl | different
    · simp [solo_phase] at parked
    · simp [solo_others queue clock _ different] at parked
  | all =>
    have same : (fun u => ((solo queue clock t (.telling .all)).phase u).rouse) =
        (solo queue clock t (.telling .all)).phase := by
      funext u
      rcases eq_or_ne u t with rfl | different
      · simp [solo_phase, Phase.rouse]
      · simp [solo_others queue clock _ different, Phase.rouse]
    have step := Step.tellAll speaker
    rw [same] at step
    exact step

/-- A caller that is past its event tells the others, if it has to, and is back. -/
theorem solo_over (queue : ValueQueue) (clock : Nat) (t : ι) {phase : Phase}
    (past : phase.wait? = none) : Run Step (solo queue clock t phase) [] (idle queue clock) := by
  cases phase with
  | called wait | parked wait | roused wait => cases past
  | away =>
    rw [solo_away]
    exact .refl
  | telling audience => exact Run.refl.quiet (solo_told queue clock t audience)

section Calls
variable (queue : ValueQueue) (clock : Nat) (t : ι)

theorem idle_push (v : Int64) :
    ∃ told, Step (idle queue clock) (some (.pushed t v (queue.push v).2)) told ∧
      Run Step told [] (idle (queue.push v).1 clock) := by
  rw [← solo_away queue clock t]
  refine ⟨_, solo_move (.push rfl), solo_over _ clock t ?_⟩
  cases (queue.push v).2 <;> rfl

theorem idle_close (reason : CloseReason) :
    ∃ told, Step (idle queue clock) (some (.closed t reason (queue.close reason).2)) told ∧
      Run Step told [] (idle (queue.close reason).1 clock) := by
  rw [← solo_away queue clock t]
  refine ⟨_, solo_move (.close rfl), solo_over _ clock t ?_⟩
  cases (queue.close reason).2 <;> rfl

/-- A receiver may take its time before it looks. -/
theorem idle_receive (timeout : Option Nat) (nanos : Nat) {result : Except ReceiveError Int64}
    {left : ValueQueue}
    (found : look queue (.starting timeout clock) (clock + nanos) = (some result, left)) :
    ∃ called later, Step (idle queue clock) (some (.called t (.starting timeout clock))) called ∧
      Run Step called [] later ∧ later.queue = queue ∧
      Step later (some (.received t (.starting timeout clock) (clock + nanos) result))
        (idle left (clock + nanos)) := by
  rw [← solo_away queue clock t, ← solo_away left (clock + nanos) t]
  exact ⟨_, _, solo_move (.call timeout), Run.refl.quiet (.pass nanos), rfl,
    solo_move (.take (.inl rfl) found)⟩

/-- A first close rouses the only caller that is parked. -/
theorem solo_close {u : ι} (different : u ≠ t) (wait : Wait) (reason : CloseReason)
    (opened : queue.closed = none) :
    ∃ told, Step (solo queue clock t (.parked wait)) (some (.closed u reason true)) told ∧
      Run Step told [] (solo ⟨queue.items, some reason⟩ clock t (.roused wait)) := by
  have done : queue.close reason = (⟨queue.items, some reason⟩, true) := by
    simp [ValueQueue.close, opened]
  have move : Move u queue clock .away _ _ (.telling .all) := .close done
  rw [← solo_others queue clock (.parked wait) different] at move
  have close := Step.move (s := solo queue clock t (.parked wait)) move
  refine ⟨_, close, ?_⟩
  have tell := Step.tellAll (t := u) (s := { (solo queue clock t (.parked wait)).enter u (.telling .all)
    with queue := ⟨queue.items, some reason⟩ }) (by simp [State.enter])
  have phases : Function.update (fun v => (((solo queue clock t (.parked wait)).enter u
      (.telling .all)).phase v).rouse) u .away =
      (solo queue clock t (.roused wait)).phase := by
    funext v
    rcases eq_or_ne v u with rfl | other
    · simp [solo_others queue clock _ different]
    · rcases eq_or_ne v t with rfl | third
      · simp [State.enter, other, solo_phase, Phase.rouse]
      · simp [State.enter, other, solo_others queue clock _ third, Phase.rouse]
  simp only [State.enter] at tell phases ⊢
  rw [phases] at tell
  exact Run.refl.quiet tell

end Calls

end PartyBridge.Handoff
