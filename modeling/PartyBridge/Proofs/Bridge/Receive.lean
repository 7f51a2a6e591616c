import PartyBridge.Driver.Serve
import PartyBridge.Proofs.Handoff.Callers

/-!
# Receives of the driver

What the driver is told by a receive is what the queue said, and a value that it is told is counted. No
call changes how long a receive waits, and the other calls leave the queue and the count of values alone.
-/

namespace PartyBridge.Bridge

variable (b : Bridge)

theorem display_timeout (text : String) : (b.display text).1.timeout = b.timeout := by
  unfold display
  split <;> rfl

theorem input_timeout (label : String) : (b.input label).1.timeout = b.timeout := by
  have shown := b.display_timeout ("input " ++ label ++ " : ")
  unfold input
  split
  all_goals
    rename_i display
    rw [display] at shown
  · exact shown
  · split <;> exact shown

theorem send_timeout (text : String) : (b.send text).1.timeout = b.timeout := by
  unfold send
  split
  · rfl
  · split <;> rfl

theorem receive_timeout : b.receive.1.timeout = b.timeout := by
  unfold receive
  dsimp only
  split <;> rfl

theorem output_timeout (text : String) : (b.output text).1.timeout = b.timeout := by
  have shown := b.display_timeout ("output: " ++ text ++ "\n")
  unfold output
  split
  all_goals
    rename_i display
    rw [display] at shown
    exact shown

theorem perform_timeout (call : Call) : (b.perform call).1.timeout = b.timeout := by
  cases call with
  | input label => simp only [perform, input_timeout]
  | send text => simp only [perform, send_timeout]
  | receive => simp only [perform, receive_timeout]
  | output text => simp only [perform, output_timeout]

/-- A receive whose wait is over when the receiver looks. -/
theorem receive_look {queue left : ValueQueue} {since now : Nat} {result : Except ReceiveError Int64}
    (found : Handoff.look queue (.starting b.timeout since) now = (some result, left)) :
    ({ b with queue }.receive).2 = some (result.mapError .ofReceive) := by
  obtain ⟨v, given, rfl⟩ | ⟨reason, given, rfl, -⟩ | ⟨since', nanos, given, limit, -, rfl, -⟩ |
    ⟨given, -⟩ := Handoff.look_cases found
  all_goals cases given
  · cases b.timeout <;> rfl
  · cases b.timeout <;> rfl
  · obtain ⟨limit, -⟩ := Handoff.Wait.starting_limited limit.symm
    rw [limit]
    rfl

/-- A receive ends with what a receiver finds that looks at some time, unless it would wait for ever. -/
theorem receive_finds (clock : Nat) :
    (∃ nanos result left, Handoff.look b.queue (.starting b.timeout clock) (clock + nanos) =
      (some result, left) ∧ b.receive.1.queue = left) ∨ (b.receive.1 = b ∧ b.receive.2 = none) := by
  obtain ⟨engine, engineOpen, ⟨items, closed⟩, answers, screen, timeout, stats, notes⟩ := b
  cases items with
  | cons v rest => exact .inl ⟨0, _, _, rfl, by cases timeout <;> rfl⟩
  | nil =>
    cases closed with
    | some reason => exact .inl ⟨0, _, _, rfl, by cases timeout <;> rfl⟩
    | none =>
      cases timeout with
      | some nanos =>
        exact .inl ⟨nanos, .error (.timedOut nanos), .empty,
          by simp [Handoff.look, ValueQueue.take?, Handoff.Wait.starting, ValueQueue.empty], rfl⟩
      | none => exact .inr ⟨rfl, rfl⟩

theorem receive_counted :
    b.receive.1.stats.received =
      b.stats.received + (b.receive.2.toList.filterMap Except.toOption).length := by
  unfold receive
  dsimp only
  split <;> rfl

/-- A call left the queue and the count of values alone. -/
structure Spares (after : Bridge) : Prop where
  queue : after.queue = b.queue
  received : after.stats.received = b.stats.received

theorem display_spares (text : String) : b.Spares (b.display text).1 := by
  unfold display
  split <;> exact ⟨rfl, rfl⟩

theorem input_spares (label : String) : b.Spares (b.input label).1 := by
  have shown := b.display_spares ("input " ++ label ++ " : ")
  unfold input
  split
  all_goals
    rename_i display
    rw [display] at shown
  · exact shown
  · split <;> exact ⟨shown.queue, shown.received⟩

theorem send_spares (text : String) : b.Spares (b.send text).1 := by
  unfold send
  split
  · exact ⟨rfl, rfl⟩
  · split <;> exact ⟨rfl, rfl⟩

theorem output_spares (text : String) : b.Spares (b.output text).1 := by
  have shown := b.display_spares ("output: " ++ text ++ "\n")
  unfold output
  split
  all_goals
    rename_i display
    rw [display] at shown
    exact ⟨shown.queue, shown.received⟩

theorem perform_spares {call : Call} (other : call ≠ .receive) : b.Spares (b.perform call).1 := by
  cases call with
  | receive => contradiction
  | input label => simpa only [perform] using b.input_spares label
  | send text => simpa only [perform] using b.send_spares text
  | output text => simpa only [perform] using b.output_spares text

end PartyBridge.Bridge
