import PartyBridge.Proofs.EngineOutput.Stream
import PartyBridge.Proofs.Ensemble.Delivery

/-!
# Shutting the drain down

Whoever shuts the drain down raises the stop flag and then closes the queue, and either may fall between
any two steps of the drain. Once both are done the queue takes nothing more, and the drain goes one way
only, at most past one more line, to its end (`WindsDown`). `shutdown_final` says so of every session.
-/

namespace PartyBridge.Ensemble
open ByteStream EngineOutput Engine

/-- How a drain goes on that has been told to stop: it may get the line that it was reading for and deals
with it, but it does not read again. -/
inductive WindsDown : Place → Place → Prop where
  | stays (place : Place) : WindsDown place place
  | line (bytes : Bytes) : WindsDown .reading (.holding bytes)
  | ended : WindsDown .reading (.leaving .outputClosed)
  | settled (bytes : Bytes) : WindsDown (.holding bytes) .checking
  | stopped : WindsDown .checking (.leaving .cancelled)
  | left (reason : CloseReason) : WindsDown (.leaving reason) .finished

namespace Place

def ahead : Place → Nat
  | .reading => 4
  | .holding _ => 3
  | .checking => 2
  | .leaving _ => 1
  | .finished => 0

/-- The lines that a drain may still deal with when it has been told to stop. -/
def due : Place → Nat
  | .reading | .holding _ => 1
  | .checking | .leaving _ | .finished => 0

theorem due_le (place : Place) : place.due ≤ 1 := by
  cases place <;> simp [due]

end Place

theorem WindsDown.ahead_lt {place place' : Place} (winds : WindsDown place place')
    (moved : place' ≠ place) : place'.ahead < place.ahead := by
  cases winds with
  | stays => exact absurd rfl moved
  | _ => simp [Place.ahead]

variable {κ : Type} {marker : List Char}

theorem State.held_le_due (s : State κ) : s.held.length ≤ s.place.due := by
  unfold State.held
  cases s.place <;> simp [Place.due]

/-- From one state to another the drain has dealt with some lines, all of whose values were dropped. -/
structure Dropped (marker : List Char) (more : List Bytes) (s s' : State κ) : Prop where
  settled : s'.settled = s.settled ++ more
  lines : s'.drain.stats.lines = s.drain.stats.lines + more.length
  values : s'.drain.stats.values = s.drain.stats.values
  dropped : s'.drain.stats.dropped = s.drain.stats.dropped + (lineValues marker more).length
  due : more.length + s'.place.due ≤ s.place.due

namespace Dropped

theorem nothing {s s' : State κ} (settled : s'.settled = s.settled)
    (stats : s'.drain.stats = s.drain.stats) (due : s'.place.due ≤ s.place.due) :
    Dropped marker [] s s' :=
  ⟨by simpa using settled, by simp [stats], by rw [stats], by simp [stats, lineValues], by simpa using due⟩

theorem trans {more more' : List Bytes} {s t u : State κ} (first : Dropped marker more s t)
    (second : Dropped marker more' t u) : Dropped marker (more ++ more') s u where
  settled := by rw [second.settled, first.settled, List.append_assoc]
  lines := by rw [second.lines, first.lines, List.length_append, Nat.add_assoc]
  values := second.values.trans first.values
  dropped := by
    rw [second.dropped, first.dropped, lineValues, lineValues, lineValues, List.filterMap_append,
      List.length_append, Nat.add_assoc]
  due := by
    have early := first.due
    have late := second.due
    rw [List.length_append]
    omega

end Dropped

variable [DecidableEq κ]

section Steps
variable {s s' : State κ} {e : Option (Handoff.Event (Party κ))}

theorem step_stop (step : Step marker s e s') (stop : s.stop = true) : s'.stop = true := by
  cases step with
  | raise idle free => rfl
  | _ => exact stop

/-- Whoever is about to close the queue has raised the flag. -/
theorem step_raised (step : Step marker s e s') (raised : s.cancelling = true → s.stop = true)
    (cancelling : s'.cancelling = true) : s'.stop = true := by
  cases step with
  | raise idle free => rfl
  | cancel due step => cases cancelling
  | _ => exact raised cancelling

/-- The drain never waits for a value. -/
theorem step_unwaiting (step : Step marker s e s')
    (free : (s.handoff.phase (.inl .drainer)).wait? = none) :
    (s'.handoff.phase (.inl .drainer)).wait? = none := by
  rw [Option.eq_none_iff_forall_ne_some] at free ⊢
  intro wait waits
  rcases step_handoff step with moved | ⟨-, same⟩
  · rcases Handoff.step_wait moved waits with ⟨waited, -⟩ | ⟨rfl, -⟩
    · exact free wait waited
    · cases step with
      | guest own step => cases own
  · exact free wait (same ▸ waits)

theorem step_winds (step : Step marker s e s') (stop : s.stop = true) :
    WindsDown s.place s'.place := by
  cases step with
  | check place free =>
    simp only [place, stop]
    exact .stopped
  | read place next =>
    rw [place]
    exact .line _
  | fault place next | ended place next =>
    rw [place]
    exact .ended
  | offer place kind step | skip place kind =>
    rw [place]
    exact .settled _
  | leave place step =>
    rw [place]
    exact .left _
  | _ => exact .stays _

-- how a line changes the drain is told by its lemmas, and unfolding it here would be slow
attribute [local irreducible] Drain.line

omit [DecidableEq κ] in
theorem settle_dropped {bytes : Bytes} (handoff : Handoff.State (Party κ))
    (closed : s.handoff.queue.closed ≠ none) (place : s.place = .holding bytes) :
    Dropped marker [bytes] s { s.settle marker bytes with handoff } := by
  obtain ⟨reason, closed⟩ := Option.ne_none_iff_exists'.mp closed
  obtain ⟨-, values, dropped⟩ := Drain.line_closed marker (d := s.draining) bytes closed
  have lines := (s.draining.line_counts marker bytes).1
  have value : lineValues marker [bytes] = (lineValue? marker bytes).toList := by
    exact lineValues_snoc marker [] bytes
  refine ⟨rfl, lines, values, ?_, ?_⟩
  · rw [value]
    exact dropped
  · rw [place]
    exact Nat.le_refl 1

theorem step_dropped (step : Step marker s e s') (stop : s.stop = true)
    (closed : s.handoff.queue.closed ≠ none) : ∃ more, Dropped marker more s s' := by
  cases step with
  | check place free | read place next | fault place next | ended place next =>
    exact ⟨[], .nothing rfl rfl (by simp [place, stop, Place.due])⟩
  | @offer bytes v taken handoff place kind step =>
    exact ⟨[bytes], settle_dropped handoff closed place⟩
  | @skip bytes place kind => exact ⟨[bytes], settle_dropped s.handoff closed place⟩
  | leave place step =>
    exact ⟨[], .nothing rfl (s.draining.finish_stats _) (by simp [Place.due])⟩
  | _ => exact ⟨[], .nothing rfl rfl (Nat.le_refl _)⟩

end Steps

section Runs
variable {s s' : State κ} {h : List (Handoff.Event (Party κ))}

theorem run_stop (run : Run (Step marker) s h s') (stop : s.stop = true) : s'.stop = true := by
  induction run with
  | refl => exact stop
  | tail _ step ih => exact step_stop step ih

theorem run_unwaiting (run : Run (Step marker) s h s')
    (free : (s.handoff.phase (.inl .drainer)).wait? = none) :
    (s'.handoff.phase (.inl .drainer)).wait? = none := by
  induction run with
  | refl => exact free
  | tail _ step ih => exact step_unwaiting step ih

theorem run_raised {reads : List LineRead} {pid grace : Nat} {bridge : Bridge}
    (run : Run (Step marker) (start reads pid grace bridge) h s) :
    s.cancelling = true → s.stop = true := by
  induction run with
  | refl => exact fun cancelling => by cases cancelling
  | tail _ step ih => exact step_raised step ih

theorem run_dropped {reason : CloseReason} (run : Run (Step marker) s h s') (stop : s.stop = true)
    (closed : s.handoff.queue.closed = some reason) : ∃ more, Dropped marker more s s' := by
  induction run with
  | refl => exact ⟨[], .nothing rfl rfl (Nat.le_refl _)⟩
  | tail run step ih =>
    obtain ⟨more, before⟩ := ih
    have shut := (Handoff.run_closed (run_handoff run) closed).1
    obtain ⟨more', after⟩ := step_dropped step (run_stop run stop) (by simp [shut])
    exact ⟨more ++ more', before.trans after⟩

end Runs

/-! ### The way out -/

section Out
variable {s : State κ}

/-- A drain that is in no call can take its next step. -/
theorem exists_step (away : s.handoff.phase (.inl .drainer) = .away) (stop : s.stop = true)
    (more : s.place ≠ .finished) : ∃ e s', Step marker s e s' ∧ s'.place ≠ s.place := by
  cases place : s.place with
  | finished => exact absurd place more
  | checking => exact ⟨_, _, .check place away, by simp [stop]⟩
  | reading =>
    cases next : s.reads with
    | nil => exact ⟨_, _, .ended place next, by simp⟩
    | cons read rest =>
      cases read with
      | line bytes => exact ⟨_, _, .read place next, by simp⟩
      | fault message => exact ⟨_, _, .fault place next, by simp⟩
  | holding bytes =>
    cases kind : lineValue? marker bytes with
    | none => exact ⟨_, _, .skip place (lineValue?_eq_none.mp kind), by simp [State.settle]⟩
    | some v =>
      have move : Handoff.Move (.inl .drainer : Party κ) s.handoff.queue s.handoff.clock .away
          (some (.pushed (.inl .drainer) v _)) _ _ := .push rfl
      rw [← away] at move
      exact ⟨_, _, .offer place (lineValue?_eq_some.mp kind) (.move move), by simp [State.settle]⟩
  | leaving reason =>
    have move : Handoff.Move (.inl .drainer : Party κ) s.handoff.queue s.handoff.clock .away
        (some (.closed (.inl .drainer) reason _)) _ _ := .close rfl
    rw [← away] at move
    exact ⟨_, _, .leave place (.move move), by simp⟩

/-- A drain that has been told to stop can come to its end. -/
theorem exists_finished (free : (s.handoff.phase (.inl .drainer)).wait? = none) (stop : s.stop = true) :
    ∃ h u, Run (Step marker) s h u ∧ u.place = .finished := by
  generalize left : s.place.ahead = n
  induction n using Nat.strongRecOn generalizing s with
  | ind n ih =>
    by_cases finished : s.place = .finished
    · exact ⟨[], s, .refl, finished⟩
    -- it may have to tell the others of a push before it can go on
    have ready : ∃ t, Run (Step marker) s [] t ∧ t.handoff.phase (.inl .drainer) = .away ∧
        t.place = s.place ∧ t.stop = true := by
      cases phase : s.handoff.phase (.inl .drainer) with
      | away => exact ⟨s, .refl, phase, rfl, stop⟩
      | telling audience =>
        obtain ⟨handoff, told, away⟩ := Handoff.exists_told phase
        exact ⟨_, Run.refl.quiet (.quiet told), away, rfl, stop⟩
      | called wait | parked wait | roused wait =>
        rw [phase] at free
        cases free
    obtain ⟨t, told, away, same, stop⟩ := ready
    obtain ⟨e, u, step, moved⟩ := exists_step away stop (same ▸ finished)
    have less : u.place.ahead < n := by
      rw [← left, ← same]
      exact (step_winds step stop).ahead_lt moved
    obtain ⟨h, v, rest, ended⟩ :=
      ih _ less (step_unwaiting step (by rw [away]; rfl)) (step_stop step stop) rfl
    exact ⟨_, v, (told.tail step).trans rest, ended⟩

end Out

/-- Once the drain has been shut down, at whatever point of its run, no push is taken, from whomever it
comes, and the queue only loses the values that are received. The reason of its close is settled: it is
the shutdown, unless the queue was closed before. The drain reads or deals with one more line at most, and
drops the value on it; then it leaves its loop when it next looks at the flag, if the end of the output or
a failed read has not made it leave before. Nothing keeps it from coming to its end. -/
theorem shutdown_final {capacity : Nat} {events : List Event} {pid grace : Nat} {bridge : Bridge}
    {before after : List (Handoff.Event (Party κ))} {t t' s : State κ} {first : Bool}
    (run : Run (Step marker) (start (lineReads capacity events) pid grace bridge) before t)
    (done : Step marker t (some (.closed (.inl .stopper) .cancelled first)) t')
    (later : Run (Step marker) t' after s) :
    Handoff.accepted after = [] ∧
    s.drain.stats.values = t.drain.stats.values ∧
    Handoff.delivered after ++ s.handoff.queue.items = t.handoff.queue.items ∧
    s.handoff.queue.closed = some (t.handoff.queue.closed.getD .cancelled) ∧
    s.drain.stats.lines + s.held.length ≤ t.drain.stats.lines + 1 ∧
    (∃ more, s.settled = t.settled ++ more ∧
      s.drain.stats.lines = t.drain.stats.lines + more.length ∧
      s.drain.stats.dropped = t.drain.stats.dropped + (lineValues marker more).length) ∧
    (∀ e u, Step marker s e u → WindsDown s.place u.place) ∧
    ∃ h u, Run (Step marker) s h u ∧ u.place = .finished := by
  have free := step_unwaiting done (run_unwaiting run rfl)
  cases done with
  | guest own step => cases own
  | @cancel first handoff due step =>
    have stop := run_raised run due
    have queue := Handoff.effect_close (Handoff.step_effect step)
    have reason := congrArg ValueQueue.closed queue
    have kept := congrArg ValueQueue.items queue
    obtain ⟨closed, accepted, items⟩ := Handoff.run_closed (run_handoff later) reason
    obtain ⟨more, dropped⟩ := run_dropped later stop reason
    have stopped := run_stop later stop
    refine ⟨accepted, dropped.values, ?_, closed, ?_, ⟨more, dropped.settled, dropped.lines, dropped.dropped⟩,
      fun e u step => step_winds step stopped, exists_finished (run_unwaiting later free) stopped⟩
    · exact items.trans kept
    · have held := s.held_le_due
      have due := dropped.due
      have one := t.place.due_le
      have lines := dropped.lines
      simp only at lines due
      omega

theorem pair_held : ∃ h s, Run (Step ['M']) pair h s ∧ s.place = .holding [77, 32, 57] ∧
    s.cancelling = false ∧ s.handoff = Handoff.idle ⟨[7], none⟩ 0 ∧ s.settled = [[77, 32, 55, 10]] ∧
    s.drain.stats.values = 1 := by
  have lines : lineReads 4 [.chunk [77, 32, 55, 10, 77, 32, 57]] =
      [.line [77, 32, 55, 10], .line [77, 32, 57]] := by
    decide +kernel
  rw [pair, lines]
  have first : Leads ['M'] (start [.line [77, 32, 55, 10], .line [77, 32, 57]] 1 0
      (.start .unlimited .unlimited .empty [] none) : State Empty) _ :=
    (read_undisturbed rfl rfl rfl rfl).trans (settle_undisturbed rfl rfl)
  obtain ⟨h, run⟩ := first.trans (read_undisturbed rfl rfl rfl rfl)
  exact ⟨h, _, run, rfl, rfl, congrArg (Handoff.idle · 0) (by decide +kernel), rfl, by decide +kernel⟩

/-- The drain is shut down when it has read the second of two values and not yet dealt with it. -/
theorem shutdown_final_pair : ∃ before t t' after s,
    Run (Step ['M']) pair before t ∧
    Step ['M'] t (some (.closed (.inl .stopper) .cancelled true)) t' ∧ Run (Step ['M']) t' after s ∧
    s.settled = [[77, 32, 55, 10], [77, 32, 57]] ∧ s.handoff.queue = ⟨[7], some .cancelled⟩ ∧
    Handoff.accepted after = [] ∧ t.drain.stats.values = 1 ∧
    Handoff.delivered after ++ [7] = t.handoff.queue.items ∧
    (∀ e u, Step ['M'] s e u → WindsDown .checking u.place) ∧
    ∃ h u, Run (Step ['M']) s h u ∧ u.place = .finished := by
  obtain ⟨before, s, run, place, ready, idle, settled, counted⟩ := pair_held
  obtain ⟨t, t', raised, done, told⟩ := shutdown_undisturbed ready idle
  have late : Leads ['M'] t' _ := Leads.trans ⟨_, told⟩ (settle_undisturbed place rfl)
  obtain ⟨after, later⟩ := late
  obtain ⟨accepted, values, items, -, -, -, winds, out⟩ := shutdown_final (run.trans raised) done later
  obtain ⟨queue, same, -⟩ := Drain.line_closed ['M']
    (d := ⟨s.drain.stats, ⟨[7], some .cancelled⟩, s.drain.notes⟩) [77, 32, 57] rfl
  refine ⟨_, t, t', after, _, run.trans raised, done, later, ?_, queue, accepted, ?_, ?_, winds, out⟩
  · exact congrArg (· ++ [[77, 32, 57]]) settled
  · exact values.symm.trans (same.trans counted)
  · rw [← items]
    exact congrArg (Handoff.delivered after ++ ValueQueue.items ·) queue.symm

end PartyBridge.Ensemble
