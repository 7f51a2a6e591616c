import Mathlib.Logic.Function.Basic
import PartyBridge.ValueQueue

/-!
# Callers of the handoff queue

Any number of callers share a queue. Whatever a caller does while it holds the queue's lock is one
step. A caller that finds nothing to take is parked in the step that lets go of the lock. A caller that
has put a value or closed the queue tells parked callers in a later step of its own. A parked caller
may also wake for no reason or because its time is up; it looks again before it decides anything.
`step_effect` says once what each step does to the queue.
-/

namespace PartyBridge.Handoff
open Function (update)

variable {ι : Type}

/-- How long a receiver waits: for ever, or for `nanos` from the moment `since` of its call. -/
inductive Wait where
  | forever
  | limited (since nanos : Nat)
deriving Repr, DecidableEq

/-- The wait of a receiver that calls now, with or without a time limit. -/
def Wait.starting (timeout : Option Nat) (now : Nat) : Wait :=
  timeout.elim .forever (.limited now)

theorem Wait.starting_limited {timeout : Option Nat} {now since nanos : Nat}
    (h : Wait.limited since nanos = .starting timeout now) : timeout = some nanos ∧ since = now := by
  cases timeout with
  | none => cases h
  | some limit =>
    cases h
    exact ⟨rfl, rfl⟩

/-- What a receiver finds when it looks: a result, or nothing if it has to wait. -/
def look (q : ValueQueue) (wait : Wait) (now : Nat) :
    Option (Except ReceiveError Int64) × ValueQueue :=
  match q.take?, wait with
  | (none, q), .limited since nanos =>
    if since + nanos ≤ now then (some (.error (.timedOut nanos)), q) else (none, q)
  | found, _ => found

inductive Audience where
  | one
  | all
deriving Repr, DecidableEq

/-- Where a caller stands: in no call, before its first look, parked, woken and about to look again, or
about to tell others after it has let go of the lock. -/
inductive Phase where
  | away
  | called (wait : Wait)
  | parked (wait : Wait)
  | roused (wait : Wait)
  | telling (audience : Audience)
deriving Repr, DecidableEq

namespace Phase

def wait? : Phase → Option Wait
  | .called wait | .parked wait | .roused wait => some wait
  | .away | .telling _ => none

def rouse : Phase → Phase
  | .parked wait => .roused wait
  | phase => phase

theorem rouse_wait? (phase : Phase) : phase.rouse.wait? = phase.wait? := by
  cases phase <;> rfl

theorem rouse_ne_parked (phase : Phase) (wait : Wait) : phase.rouse ≠ .parked wait := by
  cases phase <;> simp [rouse]

end Phase

/-- What callers do, in the order in which they hold the lock, and what they are told. A `called` is
the moment at which a receiver notes the time. -/
inductive Event (ι : Type) where
  | pushed (t : ι) (v : Int64) (taken : Bool)
  | closed (t : ι) (reason : CloseReason) (first : Bool)
  | called (t : ι) (wait : Wait)
  | received (t : ι) (wait : Wait) (now : Nat) (result : Except ReceiveError Int64)
  | tried (t : ι) (result : Option Int64)
  | counted (t : ι) (n : Nat)
  | asked (t : ι) (reason : Option CloseReason)

def Event.caller : Event ι → ι
  | .pushed t _ _ | .closed t _ _ | .called t _ | .received t _ _ _ | .tried t _ | .counted t _
  | .asked t _ => t

/-- The queue, the time, and where each caller stands. -/
structure State (ι : Type) where
  queue : ValueQueue
  clock : Nat
  phase : ι → Phase

def start : State ι :=
  ⟨.empty, 0, fun _ => .away⟩

variable [DecidableEq ι]

def State.enter (s : State ι) (t : ι) (phase : Phase) : State ι :=
  { s with phase := update s.phase t phase }

/-- What a caller may do on its own: the queue and the time it finds, its phase, what it does and is
told, and the queue and the phase it leaves. -/
inductive Move (t : ι) (q : ValueQueue) (now : Nat) :
    Phase → Option (Event ι) → ValueQueue → Phase → Prop where
  | push {v : Int64} {q' : ValueQueue} {taken : Bool} (done : q.push v = (q', taken)) :
      Move t q now .away (some (.pushed t v taken)) q' (if taken then .telling .one else .away)
  | close {reason : CloseReason} {q' : ValueQueue} {first : Bool}
      (done : q.close reason = (q', first)) :
      Move t q now .away (some (.closed t reason first)) q' (if first then .telling .all else .away)
  | call (timeout : Option Nat) :
      Move t q now .away (some (.called t (.starting timeout now))) q
        (.called (.starting timeout now))
  | take {phase : Phase} {wait : Wait} {result : Except ReceiveError Int64} {q' : ValueQueue}
      (ready : phase = .called wait ∨ phase = .roused wait)
      (found : look q wait now = (some result, q')) :
      Move t q now phase (some (.received t wait now result)) q' .away
  | park {phase : Phase} {wait : Wait} {q' : ValueQueue}
      (ready : phase = .called wait ∨ phase = .roused wait) (found : look q wait now = (none, q')) :
      Move t q now phase none q' (.parked wait)
  | wake {wait : Wait} : Move t q now (.parked wait) none q (.roused wait)
  | tryPop {result : Option Int64} {q' : ValueQueue} (done : q.tryPop = (result, q')) :
      Move t q now .away (some (.tried t result)) q' .away
  | count : Move t q now .away (some (.counted t q.size)) q .away
  | ask : Move t q now .away (some (.asked t q.closed)) q .away

/-- A step: a caller does something on its own, a caller tells one other or all others, or time
passes. -/
inductive Step : State ι → Option (Event ι) → State ι → Prop where
  | move {s : State ι} {t : ι} {e : Option (Event ι)} {queue : ValueQueue} {phase : Phase}
      (move : Move t s.queue s.clock (s.phase t) e queue phase) :
      Step s e { s.enter t phase with queue }
  | tellNobody {s : State ι} {t : ι} (telling : s.phase t = .telling .one)
      (nobody : ∀ u wait, s.phase u ≠ .parked wait) : Step s none (s.enter t .away)
  | tellOne {s : State ι} {t u : ι} {wait : Wait} (telling : s.phase t = .telling .one)
      (parked : s.phase u = .parked wait) : Step s none ((s.enter u (.roused wait)).enter t .away)
  | tellAll {s : State ι} {t : ι} (telling : s.phase t = .telling .all) :
      Step s none (State.enter { s with phase := fun u => (s.phase u).rouse } t .away)
  | pass {s : State ι} (nanos : Nat) : Step s none { s with clock := s.clock + nanos }

/-! ### What a step does to the queue -/

theorem look_cases {q q' : ValueQueue} {wait : Wait} {now : Nat}
    {found : Option (Except ReceiveError Int64)} (h : look q wait now = (found, q')) :
    (∃ v, found = some (.ok v) ∧ q = ⟨v :: q'.items, q'.closed⟩) ∨
    (∃ reason, found = some (.error (.closed reason)) ∧ q = ⟨[], some reason⟩ ∧ q' = q) ∨
    (∃ since nanos, found = some (.error (.timedOut nanos)) ∧ wait = .limited since nanos ∧
      since + nanos ≤ now ∧ q = .empty ∧ q' = q) ∨
    (found = none ∧ q = .empty ∧ q' = q) := by
  obtain ⟨items, closed⟩ := q
  cases items with
  | cons v rest =>
    simp only [look, ValueQueue.take?, Prod.mk.injEq] at h
    obtain ⟨rfl, rfl⟩ := h
    exact .inl ⟨v, rfl, rfl⟩
  | nil =>
    cases closed with
    | some reason =>
      simp only [look, ValueQueue.take?, Option.map_some, Prod.mk.injEq] at h
      obtain ⟨rfl, rfl⟩ := h
      exact .inr (.inl ⟨reason, rfl, rfl, rfl⟩)
    | none =>
      cases wait with
      | forever =>
        simp only [look, ValueQueue.take?, Option.map_none, Prod.mk.injEq] at h
        obtain ⟨rfl, rfl⟩ := h
        exact .inr (.inr (.inr ⟨rfl, rfl, rfl⟩))
      | limited since nanos =>
        simp only [look, ValueQueue.take?, Option.map_none] at h
        split at h
        · rename_i elapsed
          simp only [Prod.mk.injEq] at h
          obtain ⟨rfl, rfl⟩ := h
          exact .inr (.inr (.inl ⟨since, nanos, rfl, rfl, elapsed, rfl, rfl⟩))
        · simp only [Prod.mk.injEq] at h
          obtain ⟨rfl, rfl⟩ := h
          exact .inr (.inr (.inr ⟨rfl, rfl, rfl⟩))

/-- What an event tells of the queue before and after it. -/
def Effect (before : ValueQueue) : Option (Event ι) → ValueQueue → Prop
  | some (.pushed _ v true), after => before.closed = none ∧ after = ⟨before.items ++ [v], none⟩
  | some (.closed _ reason true), after => before.closed = none ∧ after = ⟨before.items, some reason⟩
  | some (.pushed _ _ false), after | some (.closed _ _ false), after =>
    before.closed ≠ none ∧ after = before
  | some (.received _ _ _ (.ok v)), after | some (.tried _ (some v)), after =>
    before = ⟨v :: after.items, after.closed⟩
  | some (.received _ _ _ (.error (.closed reason))), after =>
    before = ⟨[], some reason⟩ ∧ after = before
  | some (.received _ wait now (.error (.timedOut nanos))), after =>
    before = .empty ∧ after = before ∧ ∃ since, wait = .limited since nanos ∧ since + nanos ≤ now
  | some (.tried _ none), after => before.items = [] ∧ after = before
  | some (.counted _ n), after => n = before.items.length ∧ after = before
  | some (.asked _ reason), after => reason = before.closed ∧ after = before
  | some (.called _ _), after | none, after => after = before

omit [DecidableEq ι] in
theorem move_effect {t : ι} {q q' : ValueQueue} {now : Nat} {p p' : Phase} {e : Option (Event ι)}
    (move : Move t q now p e q' p') : Effect q e q' := by
  cases move with
  | push done =>
    unfold ValueQueue.push at done
    split at done
    · rename_i reason closed
      cases done
      exact ⟨by simp [closed], rfl⟩
    · rename_i opened
      cases done
      exact ⟨opened, by simp [opened]⟩
  | close done =>
    unfold ValueQueue.close at done
    split at done
    · rename_i reason closed
      cases done
      exact ⟨by simp [closed], rfl⟩
    · rename_i opened
      cases done
      exact ⟨opened, rfl⟩
  | take ready found =>
    obtain ⟨v, given, same⟩ | ⟨reason, given, closed, same⟩ |
      ⟨since, nanos, given, limit, elapsed, empty, same⟩ | ⟨given, -⟩ := look_cases found
    all_goals cases given
    · exact same
    · exact ⟨closed, same⟩
    · exact ⟨empty, same, since, limit, elapsed⟩
  | park ready found =>
    obtain ⟨v, given, -⟩ | ⟨reason, given, -⟩ | ⟨since, nanos, given, -⟩ | ⟨given, -, same⟩ :=
      look_cases found
    all_goals cases given
    exact same
  | tryPop done =>
    unfold ValueQueue.tryPop at done
    split at done
    · rename_i v rest items
      cases done
      simp [Effect, ← items]
    · rename_i items
      cases done
      exact ⟨items, rfl⟩
  | count => exact ⟨rfl, rfl⟩
  | ask => exact ⟨rfl, rfl⟩
  | call timeout => rfl
  | wake => rfl

omit [DecidableEq ι] in
theorem move_caller {t : ι} {q q' : ValueQueue} {now : Nat} {p p' : Phase} {e : Option (Event ι)}
    (move : Move t q now p e q' p') : ∀ x ∈ e, x.caller = t := by
  intro x member
  cases move <;> cases member <;> rfl

/-- A step with an event is a move of the event's caller. -/
theorem step_move {s s' : State ι} {e : Event ι} (step : Step s (some e) s') :
    Move e.caller s.queue s.clock (s.phase e.caller) (some e) s'.queue (s'.phase e.caller) := by
  cases step with
  | @move t _ queue phase move =>
    rw [move_caller move e rfl]
    simpa [State.enter] using move

theorem step_pushed {s s' : State ι} {t : ι} {v : Int64} {taken : Bool}
    (step : Step s (some (.pushed t v taken)) s') : s.queue.push v = (s'.queue, taken) := by
  have move := step_move step
  generalize s.phase _ = before, s'.phase _ = after at move
  cases move with
  | push done => exact done

theorem step_received {s s' : State ι} {t : ι} {wait : Wait} {now : Nat}
    {result : Except ReceiveError Int64} (step : Step s (some (.received t wait now result)) s') :
    (s.phase t).wait? = some wait ∧ now = s.clock ∧
      look s.queue wait s.clock = (some result, s'.queue) := by
  have move := step_move step
  change Move t s.queue s.clock (s.phase t) _ _ (s'.phase t) at move
  generalize s.phase t = before, s'.phase t = after at move
  cases move with
  | take ready found => rcases ready with rfl | rfl <;> exact ⟨rfl, rfl, found⟩

theorem step_effect {s s' : State ι} {e : Option (Event ι)} (step : Step s e s') :
    Effect s.queue e s'.queue := by
  cases step with
  | move move => exact move_effect move
  | _ => rfl

omit [DecidableEq ι] in
theorem effect_closed {before after : ValueQueue} {e : Option (Event ι)} {reason : CloseReason}
    (effect : Effect before e after) (closed : before.closed = some reason) :
    after.closed = some reason := by
  unfold Effect at effect
  split at effect
  all_goals simp_all

theorem step_closed {s s' : State ι} {e : Option (Event ι)} {reason : CloseReason}
    (step : Step s e s') (closed : s.queue.closed = some reason) : s'.queue.closed = some reason :=
  effect_closed (step_effect step) closed

theorem step_closes {s s' : State ι} {e : Option (Event ι)} {reason : CloseReason}
    (step : Step s e s') (closed : s'.queue.closed = some reason) :
    s.queue.closed = some reason ∨
      (s.queue.closed = none ∧ ∃ t, e = some (.closed t reason true)) := by
  have effect := step_effect step
  unfold Effect at effect
  split at effect
  all_goals simp_all

theorem step_shut {s s' : State ι} {t : ι} {reason : CloseReason} {first : Bool}
    (step : Step s (some (.closed t reason first)) s') : s'.queue.closed ≠ none := by
  have effect := step_effect step
  cases first with
  | true => simp [effect.2]
  | false =>
    rw [effect.2]
    exact effect.1

/-! ### What a step does to a receiver -/

omit [DecidableEq ι] in
theorem move_wait {t : ι} {q q' : ValueQueue} {now : Nat} {p p' : Phase} {e : Option (Event ι)}
    {wait : Wait} (move : Move t q now p e q' p') (waits : p'.wait? = some wait) :
    (p.wait? = some wait ∧ e = none) ∨
      (e = some (.called t wait) ∧ ∃ timeout, wait = .starting timeout now) := by
  cases move with
  | @push v q' taken done => cases taken <;> cases waits
  | @close reason q' first done => cases first <;> cases waits
  | call timeout =>
    cases waits
    exact .inr ⟨rfl, timeout, rfl⟩
  | park ready found =>
    cases waits
    rcases ready with rfl | rfl <;> exact .inl ⟨rfl, rfl⟩
  | wake => exact .inl ⟨waits, rfl⟩
  | take ready found | tryPop done | count | ask => cases waits

/-- A caller that waits after a step has waited before it, and the event is not its own, or it has just
called. -/
theorem step_wait {s s' : State ι} {e : Option (Event ι)} {t : ι} {wait : Wait} (step : Step s e s')
    (waits : (s'.phase t).wait? = some wait) :
    ((s.phase t).wait? = some wait ∧ ∀ x ∈ e, x.caller ≠ t) ∨
      (e = some (.called t wait) ∧ ∃ timeout, wait = .starting timeout s.clock) := by
  cases step with
  | @move u _ queue phase move =>
    by_cases same : t = u
    · subst u
      simp only [State.enter, Function.update_self] at waits
      rcases move_wait move waits with ⟨waited, rfl⟩ | called
      · exact .inl ⟨waited, by simp⟩
      · exact .inr called
    · simp only [State.enter, Function.update_of_ne same] at waits
      refine .inl ⟨waits, ?_⟩
      intro x member
      rw [move_caller move x member]
      exact Ne.symm same
  | @tellNobody u telling nobody =>
    refine .inl ⟨?_, by simp⟩
    by_cases same : t = u
    · subst u
      simp [State.enter, Phase.wait?] at waits
    · simpa [State.enter, same] using waits
  | @tellOne u v wait' telling parked =>
    refine .inl ⟨?_, by simp⟩
    by_cases same : t = u
    · subst u
      simp [State.enter, Phase.wait?] at waits
    · by_cases other : t = v
      · subst v
        simpa [State.enter, same, parked, Phase.wait?] using waits
      · simpa [State.enter, same, other] using waits
  | @tellAll u telling =>
    refine .inl ⟨?_, by simp⟩
    by_cases same : t = u
    · subst u
      simp [State.enter, Phase.wait?] at waits
    · simpa [State.enter, same, Phase.rouse_wait?] using waits
  | pass nanos => exact .inl ⟨waits, by simp⟩

end PartyBridge.Handoff
