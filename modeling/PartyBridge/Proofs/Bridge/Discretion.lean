import PartyBridge.Proofs.Bridge.Calls
import PartyBridge.Proofs.Bridge.Runs
import PartyBridge.Proofs.Journal.Agreement
import PartyBridge.Proofs.Text.Utf8

/-!
# The discretion of calls

What a call tells the log is what was said, and so is never logged without content (`perform_discreet`). How
a call ends depends on its sinks only by what its write fails with (`perform_facing`), and not on the text
that is sent or shown (`perform_alike`).
-/

namespace PartyBridge

open ByteStream Journal

/-! ### Writes that fail -/

namespace ByteStream.Sink

/-- A sink on which every write fails so, or none does. -/
def failing : Option WriteFault → Sink
  | none => unlimited
  | some fault => { unlimited with room := some 0, whenFull := fault }

/-- What a write fails with, if it does. -/
def fault? (s : Sink) (bytes : Bytes) : Option WriteFault :=
  match (s.send bytes).2 with
  | .ok () => none
  | .error fault => some fault

theorem failing_fault (fault : Option WriteFault) {bytes : Bytes} (some : bytes ≠ []) :
    (failing fault).fault? bytes = fault := by
  cases fault <;> simp [fault?, failing, send, write, flush, unlimited, some]

end ByteStream.Sink

/-- Two calls that differ at most in a text that is to be sent or shown. -/
inductive Call.Alike : Call → Call → Prop where
  | same (call : Call) : Alike call call
  | send (text text' : String) : Alike (.send text) (.send text')
  | output (text text' : String) : Alike (.output text) (.output text')

/-- Two calls are both replied to, or fail for the same reason. -/
inductive RepliesAlike : Except BridgeError Driver.Reply → Except BridgeError Driver.Reply → Prop where
  | replied (reply reply' : Driver.Reply) : RepliesAlike (.ok reply) (.ok reply')
  | failed (e : BridgeError) : RepliesAlike (.error e) (.error e)

namespace Bridge

variable (b : Bridge)

def told : List String :=
  Level.events.messages b.notes

/-- The bridge with sinks that fail so, or not at all. -/
def facing (fault : Option WriteFault) : Bridge :=
  { b with engine := .failing fault, screen := .failing fault }

/-- What the write of a call fails with, if the call writes and that fails. -/
def fault? : Call → Option WriteFault
  | .input label => b.screen.fault? (Utf8.encode ("input " ++ label ++ " : "))
  | .output text => b.screen.fault? (Utf8.encode ("output: " ++ text ++ "\n"))
  | .send text => if b.engineOpen then b.engine.fault? (Utf8.encode (text ++ "\n")) else none
  | .receive => none

theorem display_fault (text : String) :
    b.display text = ({ b with screen := (b.screen.write (Utf8.encode text)).1 },
      (b.screen.fault? (Utf8.encode text)).elim (.ok ()) fun fault => .error (.operator fault.message)) := by
  rw [display_eq, Sink.fault?]
  cases (b.screen.send (Utf8.encode text)).2 <;> rfl

theorem perform_output_eq (text : String) :
    b.perform (.output text) =
      let after := { b with screen := (b.screen.write (Utf8.encode ("output: " ++ text ++ "\n"))).1 }
      (b.fault? (.output text)).elim
        ({ after with stats := { b.stats with outputs := b.stats.outputs + 1 } }, some (.ok .ack))
        fun fault => (after, some (.error (.operator fault.message))) := by
  delta perform output
  dsimp only
  rw [display_fault, fault?]
  cases b.screen.fault? (Utf8.encode ("output: " ++ text ++ "\n")) <;> rfl

theorem perform_send_eq (text : String) :
    b.perform (.send text) =
      if b.engineOpen then
        let after := { b with engine := (b.engine.send (Utf8.encode (text ++ "\n"))).1 }
        (b.fault? (.send text)).elim
          ({ after with stats := { b.stats with sent := b.stats.sent + 1 } }.log
            (content ("Sent to engine: " ++ text)), some (.ok .ack))
          fun fault => (after, some (.error (.engineInput fault.message)))
      else (b, some (.error .engineInputClosed)) := by
  rw [perform, send, fault?, Sink.fault?]
  cases isOpen : b.engineOpen with
  | false => rfl
  | true =>
    simp only [if_true, Bool.not_true, Bool.false_eq_true, if_false]
    generalize b.engine.send (Utf8.encode (text ++ "\n")) = sent
    obtain ⟨engine, result⟩ := sent
    cases result <;> rfl

theorem perform_input_eq (label : String) :
    b.perform (.input label) =
      let after := { b with screen := (b.screen.write (Utf8.encode ("input " ++ label ++ " : "))).1 }
      (b.fault? (.input label)).elim
        (match answer label b.answers with
        | (.error e, answers) => ({ after with answers }, some (.error e))
        | (.ok text, answers) =>
          ({ after with answers, stats := { b.stats with inputs := b.stats.inputs + 1 } }.log
            (content ("Operator input for '" ++ label ++ "': " ++ text)), some (.ok (.input text))))
        fun fault => (after, some (.error (.operator fault.message))) := by
  delta perform input
  dsimp only
  rw [display_fault, fault?]
  cases b.screen.fault? (Utf8.encode ("input " ++ label ++ " : ")) with
  | some fault => rfl
  | none =>
    dsimp only [Option.elim]
    generalize answer label b.answers = answered
    obtain ⟨outcome, answers⟩ := answered
    cases outcome <;> rfl

/-! ### What is told -/

theorem display_told (text : String) : (b.display text).1.told = b.told := by
  rw [display_eq]
  rfl

theorem input_told (label : String) : (b.input label).1.told = b.told := by
  have shown := b.display_told ("input " ++ label ++ " : ")
  delta input
  split
  all_goals
    rename_i display
    rw [display] at shown
  · exact shown
  · split <;> exact shown

theorem send_told (text : String) : (b.send text).1.told = b.told := by
  unfold send
  split
  · rfl
  · split <;> rfl

theorem receive_told : b.receive.1.told = b.told := by
  unfold receive
  dsimp only
  split <;> rfl

theorem output_told (text : String) : (b.output text).1.told = b.told := by
  have shown := b.display_told ("output: " ++ text ++ "\n")
  delta output
  split
  all_goals
    rename_i display
    rw [display] at shown
    exact shown

/-- No call notes anything but what was said. -/
theorem perform_discreet (call : Call) : (b.perform call).1.told = b.told := by
  cases call with
  | input label => simpa only [perform] using b.input_told label
  | send text => simpa only [perform] using b.send_told text
  | receive => simpa only [perform] using b.receive_told
  | output text => simpa only [perform] using b.output_told text

/-! ### How calls end -/

theorem prompt_encoded (label : String) : Utf8.encode ("input " ++ label ++ " : ") ≠ [] :=
  Utf8.encode_ne_nil (by simp)

theorem shown_encoded (text : String) : Utf8.encode ("output: " ++ text ++ "\n") ≠ [] :=
  Utf8.encode_ne_nil (by simp)

theorem line_encoded (text : String) : Utf8.encode (text ++ "\n") ≠ [] :=
  Utf8.encode_ne_nil (by simp)

theorem fault_facing (call : Call) : (b.facing (b.fault? call)).fault? call = b.fault? call := by
  cases call with
  | input label =>
    generalize b.fault? (.input label) = fault
    exact Sink.failing_fault fault (prompt_encoded label)
  | output text =>
    generalize b.fault? (.output text) = fault
    exact Sink.failing_fault fault (shown_encoded text)
  | receive => rfl
  | send text =>
    simp only [fault?, facing, Sink.failing_fault _ (line_encoded text)]
    cases b.engineOpen <;> rfl

/-- A bridge is known to a call, its sinks aside, by what a write on them fails with. -/
theorem perform_facing (call : Call) :
    ((b.facing (b.fault? call)).perform call).2 = (b.perform call).2 ∧
      ((b.facing (b.fault? call)).perform call).1.facing none = (b.perform call).1.facing none := by
  have same := b.fault_facing call
  cases call with
  | input label =>
    rw [perform_input_eq, perform_input_eq, same]
    cases b.fault? (.input label) with
    | some fault => exact ⟨rfl, rfl⟩
    | none =>
      dsimp only [Option.elim, facing]
      generalize answer label b.answers = answered
      obtain ⟨outcome, answers⟩ := answered
      cases outcome <;> exact ⟨rfl, rfl⟩
  | output text =>
    rw [perform_output_eq, perform_output_eq, same]
    cases b.fault? (.output text) <;> exact ⟨rfl, rfl⟩
  | send text =>
    have isOpen : (b.facing (b.fault? (.send text))).engineOpen = b.engineOpen := rfl
    rw [perform_send_eq, perform_send_eq, same, isOpen]
    split
    · cases b.fault? (.send text) <;> simp only [Option.elim, facing, log, and_self]
    · exact ⟨rfl, rfl⟩
  | receive =>
    simp only [perform, receive, facing]
    split <;> exact ⟨rfl, rfl⟩

/-- Two bridges that a log without content does not tell apart, now or later: the operator types the same,
and as many values wait in their queues, which are both open, or both closed for the same reason. -/
structure Alike (b b' : Bridge) : Prop where
  isOpen : b.engineOpen = b'.engineOpen
  size : b.queue.size = b'.queue.size
  closed : b.queue.closed = b'.queue.closed
  answers : b.answers = b'.answers
  stats : b.stats = b'.stats
  told : List.Forall₂ Agree b.told b'.told

variable {b} {b' : Bridge}

theorem Alike.withSinks (alike : b.Alike b') (engine engine' screen screen' : Sink) :
    { b with engine, screen }.Alike { b' with engine := engine', screen := screen' } :=
  ⟨alike.isOpen, alike.size, alike.closed, alike.answers, alike.stats, alike.told⟩

theorem Alike.withQueue (alike : b.Alike b') {queue queue' : ValueQueue} (size : queue.size = queue'.size)
    (closed : queue.closed = queue'.closed) : { b with queue }.Alike { b' with queue := queue' } :=
  ⟨alike.isOpen, size, closed, alike.answers, alike.stats, alike.told⟩

theorem Alike.closeInput (alike : b.Alike b') : b.closeInput.Alike b'.closeInput := by
  unfold Bridge.closeInput
  cases isOpen' : b'.engineOpen with
  | false =>
    rw [alike.isOpen, isOpen']
    exact alike
  | true =>
    rw [alike.isOpen, isOpen']
    exact ⟨rfl, alike.size, alike.closed, alike.answers, alike.stats, .cons (.same _) alike.told⟩

/-- The same fault is met by calls that are alike. -/
theorem Alike.fault (alike : b.Alike b') {call call' : Call} (calls : call.Alike call')
    (fault : Option WriteFault) : (b.facing fault).fault? call = (b'.facing fault).fault? call' := by
  have isOpen := alike.isOpen
  cases calls with
  | same call =>
    cases call with
    | send text => simp only [fault?, facing, Sink.failing_fault fault (line_encoded _), isOpen]
    | input | receive | output => rfl
  | send text text' =>
    simp only [fault?, facing, isOpen, Sink.failing_fault fault (line_encoded _)]
  | output text text' =>
    exact (Sink.failing_fault fault (shown_encoded text)).trans
      (Sink.failing_fault fault (shown_encoded text')).symm

theorem perform_receive {v : Int64} {items : List Int64} (waits : b.queue.items = v :: items) :
    b.perform .receive =
      ({ b with queue := { b.queue with items }, stats := { b.stats with received := b.stats.received + 1 } }.log
        (content ("Received from engine: " ++ Text.decimal v.toInt)), some (.ok (.value v))) := by
  unfold perform Bridge.receive
  cases b.timeout <;> simp [ValueQueue.popTimeout, ValueQueue.take?, waits, Except.map]

theorem perform_receive_nothing (empty : b.queue.items = []) :
    b.perform .receive = (b, ((b.queue.closed.map BridgeError.engineTerminated).or
      (b.timeout.map BridgeError.receiveTimeout)).map .error) := by
  obtain ⟨engine, isOpen, ⟨items, closed⟩, answers, screen, timeout, stats, notes⟩ := b
  obtain rfl : items = [] := empty
  cases timeout <;> cases closed <;> rfl

theorem Alike.receive (alike : b.Alike b') (timeout : b.timeout = b'.timeout) :
    Option.Rel RepliesAlike (b.perform .receive).2 (b'.perform .receive).2 ∧
      (b.perform .receive).1.Alike (b'.perform .receive).1 := by
  have size : b.queue.items.length = b'.queue.items.length := alike.size
  cases items : b.queue.items with
  | nil =>
    have items' : b'.queue.items = [] := by simpa [items, eq_comm] using size
    rw [perform_receive_nothing items, perform_receive_nothing items', alike.closed, timeout]
    refine ⟨?_, alike⟩
    cases (b'.queue.closed.map BridgeError.engineTerminated).or (b'.timeout.map BridgeError.receiveTimeout) with
    | none => exact .none
    | some e => exact .some (.failed e)
  | cons v rest =>
    cases items' : b'.queue.items with
    | nil => simp [items, items'] at size
    | cons v' rest' =>
      rw [perform_receive items, perform_receive items']
      have fewer : rest.length = rest'.length := by simpa [items, items'] using size
      have counts : { b.stats with received := b.stats.received + 1 } =
        { b'.stats with received := b'.stats.received + 1 } := by rw [alike.stats]
      exact ⟨.some (.replied _ _), alike.isOpen, fewer, alike.closed, alike.answers, counts, alike.told⟩

theorem Alike.input (alike : b.Alike b') {label : String}
    (faults : b.fault? (.input label) = b'.fault? (.input label)) :
    Option.Rel RepliesAlike (b.perform (.input label)).2 (b'.perform (.input label)).2 ∧
      (b.perform (.input label)).1.Alike (b'.perform (.input label)).1 := by
  rw [perform_input_eq, perform_input_eq, faults]
  cases b'.fault? (.input label) with
  | some fault => exact ⟨.some (.failed _), alike.withSinks _ _ _ _⟩
  | none =>
    dsimp only [Option.elim]
    rw [alike.answers]
    generalize answer label b'.answers = answered
    obtain ⟨outcome, answers⟩ := answered
    cases outcome with
    | error e => exact ⟨.some (.failed e), alike.isOpen, alike.size, alike.closed, rfl, alike.stats, alike.told⟩
    | ok text =>
      have counts : { b.stats with inputs := b.stats.inputs + 1 } =
        { b'.stats with inputs := b'.stats.inputs + 1 } := by rw [alike.stats]
      exact ⟨.some (.replied _ _), alike.isOpen, alike.size, alike.closed, rfl, counts, alike.told⟩

theorem Alike.output (alike : b.Alike b') {text text' : String}
    (faults : b.fault? (.output text) = b'.fault? (.output text')) :
    Option.Rel RepliesAlike (b.perform (.output text)).2 (b'.perform (.output text')).2 ∧
      (b.perform (.output text)).1.Alike (b'.perform (.output text')).1 := by
  rw [perform_output_eq, perform_output_eq, faults]
  cases b'.fault? (.output text') with
  | some fault => exact ⟨.some (.failed _), alike.withSinks _ _ _ _⟩
  | none =>
    dsimp only [Option.elim]
    have counts : { b.stats with outputs := b.stats.outputs + 1 } =
      { b'.stats with outputs := b'.stats.outputs + 1 } := by rw [alike.stats]
    exact ⟨.some (.replied _ _), alike.isOpen, alike.size, alike.closed, alike.answers, counts, alike.told⟩

theorem Alike.send (alike : b.Alike b') {text text' : String}
    (faults : b.fault? (.send text) = b'.fault? (.send text')) :
    Option.Rel RepliesAlike (b.perform (.send text)).2 (b'.perform (.send text')).2 ∧
      (b.perform (.send text)).1.Alike (b'.perform (.send text')).1 := by
  rw [perform_send_eq, perform_send_eq, faults]
  by_cases isOpen : b.engineOpen
  · rw [if_pos isOpen, if_pos (alike.isOpen ▸ isOpen)]
    cases b'.fault? (.send text') with
    | some fault => exact ⟨.some (.failed _), alike.withSinks _ _ _ _⟩
    | none =>
      have counts : { b.stats with sent := b.stats.sent + 1 } =
        { b'.stats with sent := b'.stats.sent + 1 } := by rw [alike.stats]
      exact ⟨.some (.replied _ _), alike.isOpen, alike.size, alike.closed, alike.answers, counts, alike.told⟩
  · rw [if_neg isOpen, if_neg (alike.isOpen ▸ isOpen)]
    exact ⟨.some (.failed _), alike⟩

/-- Calls that are alike, whose writes fail alike, end alike. -/
theorem Alike.perform (alike : b.Alike b') (timeout : b.timeout = b'.timeout) {call call' : Call}
    (calls : call.Alike call') (faults : b.fault? call = b'.fault? call') :
    Option.Rel RepliesAlike (b.perform call).2 (b'.perform call').2 ∧
      (b.perform call).1.Alike (b'.perform call').1 := by
  cases calls with
  | same call =>
    cases call with
    | input label => exact alike.input faults
    | send text => exact alike.send faults
    | receive => exact alike.receive timeout
    | output text => exact alike.output faults
  | send text text' => exact alike.send faults
  | output text text' => exact alike.output faults

end Bridge

end PartyBridge
