import PartyBridge.Proofs.Ensemble.Delivery

/-!
# An output that ends by itself

A queue that says that the output has ended was closed by the drain, after its last line and before
anybody else. Then every value was accepted, and a driver that goes on receiving gets all of them before
it hears of the end (`lossless_end`).
-/

namespace PartyBridge.Ensemble
open ByteStream EngineOutput Engine

variable {marker : List Char} {s s' : State Empty} {h : List (Handoff.Event (Party Empty))}

/-! ### After the end of the drain -/

theorem step_finished {e : Option (Handoff.Event (Party Empty))} (step : Step marker s e s')
    (finished : s.place = .finished) :
    s'.place = .finished ∧ s'.settled = s.settled ∧ s'.drain = s.drain := by
  cases step with
  | check place | read place | fault place | ended place | offer place | skip place | leave place =>
    rw [finished] at place
    cases place
  | _ => exact ⟨finished, rfl, rfl⟩

theorem run_finished (run : Run (Step marker) s h s') (finished : s.place = .finished) :
    s'.place = .finished ∧ s'.settled = s.settled ∧ s'.drain = s.drain := by
  induction run with
  | refl => exact ⟨finished, rfl, rfl⟩
  | tail _ step ih =>
    obtain ⟨before, lines, drain⟩ := ih
    obtain ⟨after, lines', drain'⟩ := step_finished step before
    exact ⟨after, lines'.trans lines, drain'.trans drain⟩

/-! ### The first close -/

theorem step_ends {t : Party Empty} {first : Bool}
    (step : Step marker s (some (.closed t .outputClosed first)) s') :
    s'.place = .finished ∧ s'.drain.stats = s.drain.stats := by
  cases step with
  | leave place step => exact ⟨rfl, s.draining.finish_stats _⟩
  | @guest k e handoff own step => exact k.elim

/-- Only the drain says that the output has ended, and nothing was refused before the first close. -/
theorem run_ended {reads : List LineRead} {pid grace : Nat} {bridge : Bridge}
    (run : Run (Step marker) (start reads pid grace bridge) h s)
    (closed : s.handoff.queue.closed = some .outputClosed) :
    s.place = .finished ∧ s.drain.stats.dropped = 0 := by
  induction run with
  | refl => cases closed
  | @tail h e t u run step ih =>
    have known : t.handoff.queue.closed = some .outputClosed →
        u.place = .finished ∧ u.drain.stats.dropped = 0 := by
      intro before
      obtain ⟨finished, none⟩ := ih before
      obtain ⟨after, -, drain⟩ := step_finished step finished
      exact ⟨after, drain ▸ none⟩
    rcases step_handoff step with moved | ⟨-, same⟩
    · rcases Handoff.step_closes moved closed with before | ⟨opened, t', rfl⟩
      · exact known before
      · obtain ⟨finished, stats⟩ := step_ends step
        have ledger := Handoff.run_ledger (run_handoff run)
        have nothing : Handoff.refused h = [] := ledger.refused (ledger.closed ▸ opened)
        refine ⟨finished, ?_⟩
        rw [stats, (run_account run).dropped, nothing, List.length_nil]
    · exact known (same ▸ closed)

theorem run_lossless {reads : List LineRead} {pid grace : Nat} {bridge : Bridge}
    (run : Run (Step marker) (start reads pid grace bridge) h s)
    (closed : s.handoff.queue.closed = some .outputClosed) :
    Handoff.refused h = [] ∧ Handoff.accepted h = lineValues marker s.settled := by
  have account := run_account run
  have nothing : Handoff.refused h = [] := by
    apply List.eq_nil_of_length_eq_zero
    rw [← account.dropped, (run_ended run closed).2]
  refine ⟨nothing, ?_⟩
  rw [account.values, nothing, List.append_nil]

/-! ### Receives after the close -/

/-- What receive number `n` is told where these values are left and the queue is closed. -/
def remaining (items : List Int64) (reason : CloseReason) (n : Nat) : Except BridgeError Int64 :=
  items[n]?.elim (.error (.engineTerminated reason)) .ok

theorem remaining_drop (items : List Int64) (reason : CloseReason) (n : Nat) :
    remaining (items.drop n) reason 0 = remaining items reason n := by
  simp [remaining]

theorem step_remaining {e : Option (Handoff.Event (Party Empty))} {items : List Int64}
    {reason : CloseReason} (step : Step marker s e s')
    (queue : s.handoff.queue = ⟨items, some reason⟩) :
    (e.bind told? = none ∧ s'.handoff.queue = ⟨items, some reason⟩) ∨
    (e.bind told? = some (remaining items reason 0) ∧
      s'.handoff.queue = ⟨items.drop 1, some reason⟩) := by
  rcases step_handoff step with moved | ⟨rfl, same⟩
  · have effect := Handoff.step_effect moved
    rw [queue] at effect
    cases step with
    | @offer bytes v taken handoff place kind step =>
      cases taken with
      | true => cases effect.1
      | false => exact .inl ⟨rfl, effect.2⟩
    | @leave reason' first handoff place step | @release exit first handoff ask step
    | @cancel first handoff due step =>
      cases first with
      | true => cases effect.1
      | false => exact .inl ⟨rfl, effect.2⟩
    | @receive wait now result handoff step =>
      right
      cases result with
      | ok v =>
        obtain ⟨rfl, closed⟩ : items = v :: handoff.queue.items ∧ some reason = handoff.queue.closed := by
          simpa [Handoff.Effect] using effect
        exact ⟨rfl, by rw [closed]; rfl⟩
      | error error =>
        cases error with
        | closed reason' =>
          obtain ⟨before, same⟩ := effect
          cases before
          exact ⟨rfl, same⟩
        | timedOut nanos => cases effect.1
    | @guest k e handoff own step => exact k.elim
    | _ => exact .inl ⟨rfl, effect⟩
  · exact .inl ⟨rfl, by rw [same, queue]⟩

theorem run_remaining {items : List Int64} {reason : CloseReason} (run : Run (Step marker) s h s')
    (queue : s.handoff.queue = ⟨items, some reason⟩) :
    ∃ n, h.filterMap told? = (List.range n).map (remaining items reason) ∧
      s'.handoff.queue = ⟨items.drop n, some reason⟩ := by
  induction run with
  | refl => exact ⟨0, rfl, queue⟩
  | @tail h e t u _ step ih =>
    obtain ⟨n, told, left⟩ := ih
    rw [Handoff.filterMap_step, told]
    rcases step_remaining step left with ⟨untold, same⟩ | ⟨told', next⟩
    · exact ⟨n, by simp [untold], same⟩
    · refine ⟨n + 1, ?_, by rw [next, List.drop_drop]⟩
      rw [told', remaining_drop, List.range_succ, List.map_append]
      rfl

theorem run_terminated {reads : List LineRead} {pid grace : Nat} {bridge : Bridge}
    {before after : List (Except BridgeError Int64)}
    (run : Run (Step marker) (start reads pid grace bridge) h s)
    (got : s.got = before ++ .error (.engineTerminated .outputClosed) :: after) :
    before.filterMap Except.toOption = lineValues marker s.settled := by
  -- the event that told the driver, and the session as it was then
  have told : h.filterMap told? = _ := (run_got (start_timed reads pid grace bridge) run).2.symm.trans got
  obtain ⟨first, rest, rfl, earlier, later⟩ := List.filterMap_eq_append_iff.mp told
  obtain ⟨silent, e, last, rfl, untold, terminated, -⟩ := List.filterMap_eq_cons_iff.mp later
  obtain ⟨wait, now, rfl⟩ := told?_terminated terminated
  rw [← List.append_assoc] at run
  obtain ⟨found, left, past, step, future⟩ := run.split
  have drained : found.handoff.queue = ⟨[], some .outputClosed⟩ := by
    rcases step_handoff step with moved | ⟨none, -⟩
    · exact (Handoff.step_effect moved).1
    · cases none
  have closed : found.handoff.queue.closed = some .outputClosed := by rw [drained]
  have items := (Handoff.run_ledger (run_handoff past)).items
  rw [drained, List.append_nil] at items
  have lines : s.settled = found.settled :=
    (run_finished ((Run.refl.event step).trans future) (run_ended past closed).1).2.1
  have quiet : silent.filterMap told? = [] := List.filterMap_eq_nil_iff.mpr untold
  calc
    before.filterMap Except.toOption
      = ((first ++ silent).filterMap told?).filterMap Except.toOption := by
        rw [List.filterMap_append, earlier, quiet, List.append_nil]
    _ = Handoff.delivered (first ++ silent) := run_delivered past
    _ = Handoff.accepted (first ++ silent) := items
    _ = lineValues marker found.settled := (run_lossless past closed).2
    _ = lineValues marker s.settled := by rw [lines]

/-- Where the queue was closed because the output had ended, the drain is at its end, no value was
dropped, and the queue accepted the value of every line that the drain has dealt with. The driver has
received all of them before it was first told of the end. A receive from now on need not wait: it gets
the next value that is left, and is told of the end only after the last one. Where a value was dropped,
the engine had exited or the session was cancelled. -/
theorem lossless_end {capacity : Nat} {events : List Event} {pid grace : Nat} {bridge : Bridge}
    (run : Run (Step marker) (start (lineReads capacity events) pid grace bridge) h s) :
    (s.handoff.queue.closed = some .outputClosed →
      s.place = .finished ∧ s.drain.stats.dropped = 0 ∧
      Handoff.offers h = (lineValues marker s.settled).map (·, true) ∧
      (∀ before after, s.got = before ++ .error (.engineTerminated .outputClosed) :: after →
        before.filterMap Except.toOption = lineValues marker s.settled) ∧
      s.received ++ s.handoff.queue.items = lineValues marker s.settled ∧
      (∀ wait now, (Handoff.look s.handoff.queue wait now).1.isSome) ∧
      ∀ h' s', Run (Step marker) s h' s' → ∃ n, s'.got =
        s.got ++ (List.range n).map (remaining s.handoff.queue.items .outputClosed)) ∧
    (0 < s.drain.stats.dropped →
      (∃ exit, s.handoff.queue.closed = some (.engineExited exit)) ∨
        s.handoff.queue.closed = some .cancelled) := by
  have account := run_account run
  have ledger := Handoff.run_ledger (run_handoff run)
  constructor
  · intro closed
    obtain ⟨finished, none⟩ := run_ended run closed
    obtain ⟨nothing, accepted⟩ := run_lossless run closed
    have queue : s.handoff.queue = ⟨s.handoff.queue.items, some .outputClosed⟩ := by rw [← closed]
    refine ⟨finished, none, ?_, fun before after => run_terminated run, ?_, ?_, ?_⟩
    · rw [ledger.offers, nothing, accepted, List.map_nil, List.append_nil]
    · rw [account.received, ledger.items, accepted]
    · intro wait now
      rw [queue]
      cases s.handoff.queue.items <;> rfl
    · intro h' s' more
      obtain ⟨n, told, -⟩ := run_remaining more queue
      obtain ⟨timed, -⟩ := run_got (start_timed _ _ _ _) run
      exact ⟨n, told ▸ (run_got timed more).2⟩
  · intro lost
    cases closed : s.handoff.queue.closed with
    | none =>
      rw [account.dropped, ledger.refused (ledger.closed ▸ closed)] at lost
      cases lost
    | some reason =>
      cases reason with
      | outputClosed =>
        rw [(run_ended run closed).2] at lost
        cases lost
      | engineExited exit => exact .inl ⟨exit, rfl⟩
      | cancelled => exact .inr rfl

theorem lossless_end_pair :
    (∃ h s, Run (Step ['M']) pair h s ∧ s.handoff.queue = ⟨[7, 9], some .outputClosed⟩ ∧
      s.drain.stats.dropped = 0 ∧ Handoff.offers h = [(7, true), (9, true)] ∧
      ∀ h' s', Run (Step ['M']) s h' s' →
        ∃ n, s'.got = (List.range n).map (remaining [7, 9] .outputClosed)) ∧
    ∃ h s, Run (Step ['M']) pair h s ∧ 0 < s.drain.stats.dropped ∧
      ((∃ exit, s.handoff.queue.closed = some (.engineExited exit)) ∨
        s.handoff.queue.closed = some .cancelled) := by
  constructor
  · obtain ⟨s, ⟨h, run⟩, -, got, drain, idle⟩ := drain_undisturbed Empty ['M'] 4
      [.chunk [77, 32, 55, 10, 77, 32, 57]] 1 0 (.start .unlimited .unlimited .empty [] none)
    have queue : s.handoff.queue = ⟨[7, 9], some .outputClosed⟩ := by
      rw [idle, drain]
      decide +kernel
    obtain ⟨-, dropped, offers, -, values, -, more⟩ := (lossless_end run).1 (by rw [queue])
    rw [queue] at values more
    rw [got] at more
    rw [← values, State.received, got] at offers
    exact ⟨h, s, run, queue, dropped, offers, more⟩
  · obtain ⟨h, s, run, -, -, dropped, -⟩ := pair_late
    have lost : 0 < s.drain.stats.dropped := by rw [dropped]; decide
    exact ⟨h, s, run, lost, (lossless_end run).2 lost⟩

end PartyBridge.Ensemble
