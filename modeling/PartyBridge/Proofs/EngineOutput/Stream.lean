import PartyBridge.Proofs.ByteStream.Lines
import PartyBridge.Proofs.EngineOutput.Drain

/-!
# A drain of a whole stream

A drain that nobody stops deals with the lines of its stream one after another, and then closes its
queue. Every line is counted once, by its kind and by whether the queue took its value (`drain_law`).
-/

namespace PartyBridge

namespace ValueQueue

theorem push_open (q : ValueQueue) {v : Int64} (isOpen : q.closed = none) :
    q.push v = (⟨q.items ++ [v], none⟩, true) := by
  simp [push, isOpen]

theorem push_closed (q : ValueQueue) {v : Int64} {reason : CloseReason} (closed : q.closed = some reason) :
    q.push v = (q, false) := by
  simp [push, closed]

theorem close_open (q : ValueQueue) {reason : CloseReason} (isOpen : q.closed = none) :
    q.close reason = (⟨q.items, some reason⟩, true) := by
  simp [close, isOpen]

theorem close_closed (q : ValueQueue) {reason first : CloseReason} (closed : q.closed = some first) :
    q.close reason = (q, false) := by
  simp [close, closed]

end ValueQueue

namespace EngineOutput
open ByteStream

def lineKind (marker : List Char) (bytes : Bytes) : LineKind :=
  classify marker (lineText bytes)

theorem lineValues_cons (marker : List Char) (bytes : Bytes) (ls : List Bytes) :
    lineValues marker (bytes :: ls) = (lineValue? marker bytes).toList ++ lineValues marker ls := by
  unfold lineValues
  cases found : lineValue? marker bytes <;> simp [found]

/-- Every line is counted by what became of it. -/
def DrainStats.Balanced (s : DrainStats) : Prop :=
  s.lines = s.values + s.malformed + s.untagged + s.dropped

namespace Drain

variable (marker : List Char)

theorem line_counts (d : Drain) (bytes : Bytes) :
    (d.line marker bytes).stats.lines = d.stats.lines + 1 ∧
    (d.line marker bytes).stats.malformed =
      d.stats.malformed + [lineKind marker bytes].count .malformed ∧
    (d.line marker bytes).stats.untagged =
      d.stats.untagged + [lineKind marker bytes].count .untagged := by
  unfold line lineKind
  cases kind : classify marker (lineText bytes) with
  | value v =>
    simp only [kind]
    split <;> simp
  | malformed | untagged => simp [kind]

theorem line_balanced {d : Drain} (bytes : Bytes) (balanced : d.stats.Balanced) :
    (d.line marker bytes).stats.Balanced := by
  obtain ⟨lines, malformed, untagged⟩ := d.line_counts marker bytes
  unfold DrainStats.Balanced at *
  rw [lines, malformed, untagged]
  cases value : lineValue? marker bytes with
  | some v =>
    obtain ⟨-, values, dropped⟩ := d.line_value value
    rw [values, dropped, lineKind, lineValue?_eq_some.mp value]
    cases (d.queue.push v).2 <;> simp <;> omega
  | none =>
    obtain ⟨-, values, dropped⟩ := d.line_other value
    rw [values, dropped]
    cases kind : lineKind marker bytes with
    | value v => exact absurd kind (lineValue?_eq_none.mp value v)
    | malformed | untagged => simp; omega

theorem line_open {d : Drain} (bytes : Bytes) (isOpen : d.queue.closed = none) :
    (d.line marker bytes).queue = ⟨d.queue.items ++ (lineValue? marker bytes).toList, none⟩ ∧
    (d.line marker bytes).stats.values = d.stats.values + (lineValue? marker bytes).toList.length ∧
    (d.line marker bytes).stats.dropped = d.stats.dropped := by
  cases value : lineValue? marker bytes with
  | some v =>
    obtain ⟨queue, values, dropped⟩ := d.line_value value
    rw [d.queue.push_open isOpen] at queue values dropped
    exact ⟨queue, values, dropped⟩
  | none =>
    obtain ⟨queue, values, dropped⟩ := d.line_other value
    refine ⟨?_, values, dropped⟩
    rw [queue, Option.toList_none, List.append_nil, ← isOpen]

theorem line_closed {d : Drain} (bytes : Bytes) {reason : CloseReason}
    (closed : d.queue.closed = some reason) :
    (d.line marker bytes).queue = d.queue ∧
    (d.line marker bytes).stats.values = d.stats.values ∧
    (d.line marker bytes).stats.dropped = d.stats.dropped + (lineValue? marker bytes).toList.length := by
  cases value : lineValue? marker bytes with
  | some v =>
    obtain ⟨queue, values, dropped⟩ := d.line_value value
    rw [d.queue.push_closed closed] at queue values dropped
    exact ⟨queue, values, dropped⟩
  | none => exact d.line_other value

/-! ### Lines one after another -/

def lines (d : Drain) (ls : List Bytes) : Drain :=
  ls.foldl (line marker) d

theorem lines_cons (d : Drain) (bytes : Bytes) (ls : List Bytes) :
    d.lines marker (bytes :: ls) = (d.line marker bytes).lines marker ls := rfl

theorem lines_counts (d : Drain) (ls : List Bytes) :
    (d.lines marker ls).stats.lines = d.stats.lines + ls.length ∧
    (d.lines marker ls).stats.malformed =
      d.stats.malformed + (ls.map (lineKind marker)).count .malformed ∧
    (d.lines marker ls).stats.untagged =
      d.stats.untagged + (ls.map (lineKind marker)).count .untagged := by
  induction ls generalizing d with
  | nil => exact ⟨rfl, rfl, rfl⟩
  | cons bytes ls ih =>
    obtain ⟨lines, malformed, untagged⟩ := ih (d.line marker bytes)
    obtain ⟨line, malformed', untagged'⟩ := d.line_counts marker bytes
    have kinds : (bytes :: ls).map (lineKind marker) = [lineKind marker bytes] ++ ls.map (lineKind marker) := rfl
    rw [lines_cons, lines, malformed, untagged, line, malformed', untagged', kinds, List.count_append,
      List.count_append, List.length_cons]
    exact ⟨by omega, Nat.add_assoc .., Nat.add_assoc ..⟩

theorem lines_balanced {d : Drain} (ls : List Bytes) (balanced : d.stats.Balanced) :
    (d.lines marker ls).stats.Balanced := by
  induction ls generalizing d with
  | nil => exact balanced
  | cons bytes ls ih =>
    rw [lines_cons]
    exact ih (line_balanced marker bytes balanced)

/-- An open queue takes every value. -/
theorem lines_open {d : Drain} (ls : List Bytes) (isOpen : d.queue.closed = none) :
    (d.lines marker ls).queue = ⟨d.queue.items ++ lineValues marker ls, none⟩ ∧
    (d.lines marker ls).stats.values = d.stats.values + (lineValues marker ls).length ∧
    (d.lines marker ls).stats.dropped = d.stats.dropped := by
  induction ls generalizing d with
  | nil => simp [lines, lineValues, ← isOpen]
  | cons bytes ls ih =>
    obtain ⟨queue, values, dropped⟩ := line_open marker bytes isOpen
    obtain ⟨queue', values', dropped'⟩ := ih (d := d.line marker bytes) (by rw [queue])
    rw [lines_cons, queue', values', dropped', queue, values, dropped, lineValues_cons, List.length_append]
    exact ⟨by rw [List.append_assoc], Nat.add_assoc .., rfl⟩

/-- A closed queue takes no value. -/
theorem lines_closed {d : Drain} (ls : List Bytes) {reason : CloseReason}
    (closed : d.queue.closed = some reason) :
    (d.lines marker ls).queue = d.queue ∧
    (d.lines marker ls).stats.values = d.stats.values ∧
    (d.lines marker ls).stats.dropped = d.stats.dropped + (lineValues marker ls).length := by
  induction ls generalizing d with
  | nil => exact ⟨rfl, rfl, rfl⟩
  | cons bytes ls ih =>
    obtain ⟨queue, values, dropped⟩ := line_closed marker bytes closed
    obtain ⟨queue', values', dropped'⟩ := ih (d := d.line marker bytes) (by rw [queue, closed])
    rw [lines_cons, queue', values', dropped', queue, values, dropped, lineValues_cons, List.length_append]
    exact ⟨rfl, rfl, Nat.add_assoc ..⟩

theorem run_lines (d : Drain) (ls : List Bytes) (rest : List LineRead) :
    d.run marker (ls.map .line ++ rest) = (d.lines marker ls).run marker rest := by
  induction ls generalizing d with
  | nil => rfl
  | cons bytes ls ih =>
    rw [List.map_cons, List.cons_append, run, lines_cons]
    exact ih (d.line marker bytes)

end Drain

section WholeStream
variable (marker : List Char) (capacity : Nat) (events : List Event) (queue : ValueQueue)

/-- A drain deals with the lines of its stream, and then closes its queue, also where a read fails. -/
theorem drain_lines :
    (drain marker capacity events queue).stats =
      ((Drain.start queue).lines marker (streamLines events)).stats ∧
    (drain marker capacity events queue).queue =
      (((Drain.start queue).lines marker (streamLines events)).queue.close .outputClosed).1 := by
  obtain ⟨more, reads⟩ := lineReads_eq capacity events
  rw [drain, reads, Drain.run_lines]
  cases failure? events with
  | none => exact ⟨Drain.finish_stats .., Drain.finish_queue ..⟩
  | some message => exact ⟨Drain.finish_stats .., Drain.finish_queue ..⟩

theorem drain_counts :
    (drain marker capacity events queue).stats.lines = (streamLines events).length ∧
    (drain marker capacity events queue).stats.malformed =
      ((streamLines events).map (lineKind marker)).count .malformed ∧
    (drain marker capacity events queue).stats.untagged =
      ((streamLines events).map (lineKind marker)).count .untagged := by
  rw [(drain_lines marker capacity events queue).1]
  simpa [Drain.start, DrainStats.zero] using (Drain.start queue).lines_counts marker (streamLines events)

theorem drain_balanced : (drain marker capacity events queue).stats.Balanced := by
  rw [(drain_lines marker capacity events queue).1]
  exact Drain.lines_balanced marker (streamLines events) rfl

theorem drain_open (isOpen : queue.closed = none) :
    (drain marker capacity events queue).queue =
      ⟨queue.items ++ lineValues marker (streamLines events), some .outputClosed⟩ ∧
    (drain marker capacity events queue).stats.values =
      (lineValues marker (streamLines events)).length ∧
    (drain marker capacity events queue).stats.dropped = 0 := by
  obtain ⟨stats, result⟩ := drain_lines marker capacity events queue
  obtain ⟨taken, values, dropped⟩ :=
    Drain.lines_open marker (d := Drain.start queue) (streamLines events) isOpen
  rw [stats, result, taken, ValueQueue.close_open _ rfl]
  exact ⟨rfl, values.trans (Nat.zero_add _), dropped⟩

theorem drain_closed {reason : CloseReason} (closed : queue.closed = some reason) :
    (drain marker capacity events queue).queue = queue ∧
    (drain marker capacity events queue).stats.values = 0 ∧
    (drain marker capacity events queue).stats.dropped =
      (lineValues marker (streamLines events)).length := by
  obtain ⟨stats, result⟩ := drain_lines marker capacity events queue
  obtain ⟨same, values, dropped⟩ :=
    Drain.lines_closed marker (d := Drain.start queue) (streamLines events) closed
  rw [stats, result, same]
  exact ⟨congrArg Prod.fst (queue.close_closed closed), values, dropped.trans (Nat.zero_add _)⟩

/-- What a drain that nobody stops makes of a stream, whatever is in its queue. It depends on the bytes
of the stream and on whether a read fails, and on nothing else. -/
theorem drain_law :
    let lines := streamLines events
    let kinds := lines.map (lineKind marker)
    let d := drain marker capacity events queue
    d.stats.lines = lines.length ∧
    d.stats.lines = d.stats.values + d.stats.malformed + d.stats.untagged + d.stats.dropped ∧
    d.stats.malformed = kinds.count .malformed ∧
    d.stats.untagged = kinds.count .untagged ∧
    (queue.closed = none →
      d.queue = ⟨queue.items ++ lineValues marker lines, some .outputClosed⟩ ∧ d.stats.dropped = 0) ∧
    (∀ reason, queue.closed = some reason →
      d.queue = queue ∧ d.stats.values = 0 ∧ d.stats.dropped = (lineValues marker lines).length) ∧
    ∀ capacity' events', delivered events' = delivered events →
      (failure? events').isSome = (failure? events).isSome →
      (drain marker capacity' events' queue).stats = d.stats ∧
      (drain marker capacity' events' queue).queue = d.queue := by
  obtain ⟨lines, malformed, untagged⟩ := drain_counts marker capacity events queue
  refine ⟨lines, drain_balanced marker capacity events queue, malformed, untagged, ?_, ?_, ?_⟩
  · intro isOpen
    obtain ⟨taken, -, dropped⟩ := drain_open marker capacity events queue isOpen
    exact ⟨taken, dropped⟩
  · intro reason closed
    exact drain_closed marker capacity events queue closed
  · intro capacity' events' bytes fails
    obtain ⟨stats, result⟩ := drain_lines marker capacity events queue
    rw [stats, result, ← streamLines_congr bytes fails]
    exact drain_lines marker capacity' events' queue

end WholeStream

/-- A stream that is cut between a carriage return and a newline, is interrupted there, and fails in the
middle of a line. -/
def torn : List Event :=
  [.chunk [77, 32, 49, 13], .interrupt, .chunk [10, 77, 32, 120, 10, 255, 10, 77, 32, 50], .fault "gone",
    .chunk [77, 32, 51, 10]]

theorem drain_law_torn :
    let d := drain ['M'] 2 torn ⟨[9], none⟩
    let e := drain ['M'] 2 torn ⟨[9], some .cancelled⟩
    d.queue = ⟨[9, 1], some .outputClosed⟩ ∧ d.stats.dropped = 0 ∧
    d.stats.lines = 3 ∧ d.stats.malformed = 1 ∧ d.stats.untagged = 1 ∧
    e.queue = ⟨[9], some .cancelled⟩ ∧ e.stats.values = 0 ∧ e.stats.dropped = 1 := by
  obtain ⟨lines, -, malformed, untagged, taken, -, -⟩ := drain_law ['M'] 2 torn ⟨[9], none⟩
  obtain ⟨-, -, -, -, -, refused, -⟩ := drain_law ['M'] 2 torn ⟨[9], some .cancelled⟩
  have known : streamLines torn = [[77, 32, 49, 13, 10], [77, 32, 120, 10], [255, 10]] := by decide
  have kinds : (streamLines torn).map (lineKind ['M']) = [.value 1, .malformed, .untagged] := by
    rw [known]
    decide +kernel
  have values : lineValues ['M'] (streamLines torn) = [1] := by
    rw [known]
    decide +kernel
  rw [known] at lines
  rw [kinds] at malformed untagged
  rw [values] at taken refused
  obtain ⟨taken, dropped⟩ := taken rfl
  exact ⟨taken, dropped, lines, malformed, untagged, refused .cancelled rfl⟩

end EngineOutput

end PartyBridge
