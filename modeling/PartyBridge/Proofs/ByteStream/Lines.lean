import PartyBridge.ByteStream.Source

/-!
# The lines of a stream

What is read of a stream line by line depends only on the bytes that it delivers before a read fails, and
on whether one fails (`lineReads_eq`): neither the chunks in which they arrive, nor the interruptions, nor
the size of the buffer matter.
-/

namespace PartyBridge.ByteStream

def delivered : List Event → Bytes
  | [] => []
  | .chunk bytes :: rest => bytes ++ delivered rest
  | .interrupt :: rest => delivered rest
  | .fault _ :: _ => []

/-- What the first read that fails says. -/
def failure? : List Event → Option String
  | [] => none
  | .chunk _ :: rest | .interrupt :: rest => failure? rest
  | .fault message :: _ => some message

/-- The lines of some bytes that end with a newline, each with its newline. -/
def endedLines (bytes : Bytes) : List Bytes :=
  (bytes.splitOn 10).dropLast.map (· ++ [10])

/-- What stands behind the last newline. -/
def unended (bytes : Bytes) : Bytes :=
  (bytes.splitOn 10).getLast (List.splitOn_ne_nil 10 bytes)

def linesOf (bytes : Bytes) : List Bytes :=
  endedLines bytes ++ if unended bytes = [] then [] else [unended bytes]

/-- The lines of a stream. A read that fails loses the line that has no newline yet. -/
def streamLines (events : List Event) : List Bytes :=
  match failure? events with
  | none => linesOf (delivered events)
  | some _ => endedLines (delivered events)

theorem streamLines_congr {events events' : List Event} (bytes : delivered events = delivered events')
    (fails : (failure? events).isSome = (failure? events').isSome) :
    streamLines events = streamLines events' := by
  unfold streamLines
  rw [bytes]
  cases first : failure? events <;> cases second : failure? events' <;> simp_all

theorem endedLines_eq_nil {piece : Bytes} (single : 10 ∉ piece) : endedLines piece = [] := by
  simp [endedLines, List.splitOn_eq_singleton single]

theorem unended_eq_self {piece : Bytes} (single : 10 ∉ piece) : unended piece = piece := by
  simp [unended, List.splitOn_eq_singleton single]

theorem endedLines_append {piece : Bytes} (single : 10 ∉ piece) (rest : Bytes) :
    endedLines (piece ++ 10 :: rest) = (piece ++ [10]) :: endedLines rest := by
  rw [endedLines, List.splitOn_append_cons_self_of_not_mem single,
    List.dropLast_cons_of_ne_nil (List.splitOn_ne_nil 10 rest)]
  rfl

theorem unended_append {piece : Bytes} (single : 10 ∉ piece) (rest : Bytes) :
    unended (piece ++ 10 :: rest) = unended rest := by
  simp only [unended, List.splitOn_append_cons_self_of_not_mem single]
  exact List.getLast_cons (List.splitOn_ne_nil 10 rest)

theorem linesOf_append {piece : Bytes} (single : 10 ∉ piece) (rest : Bytes) :
    linesOf (piece ++ 10 :: rest) = (piece ++ [10]) :: linesOf rest := by
  rw [linesOf, endedLines_append single, unended_append single]
  rfl

/-- A newline can only stand at the end of a line. -/
theorem newline_not_mem_dropLast {bytes line : Bytes} (member : line ∈ linesOf bytes) : 10 ∉ line.dropLast := by
  induction size : bytes.length using Nat.strongRecOn generalizing bytes with
  | ind n ih =>
    by_cases newline : 10 ∈ bytes
    · obtain ⟨piece, rest, rfl, single⟩ := List.eq_append_cons_of_mem newline
      rw [linesOf_append single] at member
      rcases List.mem_cons.mp member with rfl | later
      · rwa [List.dropLast_concat]
      · have shorter : rest.length < n := by
          rw [← size, List.length_append, List.length_cons]
          omega
        exact ih rest.length shorter later rfl
    · have only : line = bytes := by
        rw [linesOf, endedLines_eq_nil newline, unended_eq_self newline] at member
        split at member
        · cases member
        · exact List.mem_singleton.mp member
      rw [only]
      exact fun last => newline (List.dropLast_subset bytes last)

/-- A line that ends with its only newline. -/
def IsEnded (line : Bytes) : Prop :=
  ∃ piece, 10 ∉ piece ∧ line = piece ++ [10]

/-- Lines that follow one another are found again. -/
theorem linesOf_flatten {lines : List Bytes} (ended : ∀ line ∈ lines, IsEnded line) :
    linesOf lines.flatten = lines := by
  induction lines with
  | nil => rfl
  | cons line lines ih =>
    obtain ⟨⟨piece, single, rfl⟩, others⟩ := List.forall_mem_cons.mp ended
    rw [List.flatten_cons, List.append_assoc, List.singleton_append, linesOf_append single, ih others]

theorem buffered_flatten (capacity : Nat) (bytes : Bytes) : (buffered capacity bytes).flatten = bytes := by
  fun_induction buffered capacity bytes with
  | case1 => rfl
  | case2 b rest ih => rw [List.flatten_cons, ih, List.cons_append, List.take_append_drop]

namespace Assembly

theorem bytes_append (a : Assembly) (first second : Bytes) :
    a.bytes (first ++ second) = (a.bytes first).bytes second :=
  List.foldl_append

theorem event_chunk (capacity : Nat) (a : Assembly) (bytes : Bytes) :
    a.event capacity (.chunk bytes) = a.bytes bytes :=
  calc (buffered capacity bytes).foldl Assembly.bytes a
    _ = (buffered capacity bytes).flatten.foldl byte a := List.foldl_flatten.symm
    _ = a.bytes bytes := by rw [buffered_flatten, Assembly.bytes]

/-- Bytes continue the line in progress, and the lines that they end are done. -/
theorem bytes_eq (a : Assembly) (bs : Bytes) (single : 10 ∉ a.pending) :
    a.bytes bs =
      ⟨(unended (a.pending.reverse ++ bs)).reverse,
        ((endedLines (a.pending.reverse ++ bs)).map .line).reverse ++ a.done⟩ := by
  induction bs generalizing a with
  | nil =>
    rw [List.append_nil, unended_eq_self (by simpa using single), endedLines_eq_nil (by simpa using single)]
    simp [bytes]
  | cons b bs ih =>
    rw [show a.bytes (b :: bs) = (a.byte b).bytes bs from rfl]
    by_cases newline : b = 10
    · subst newline
      rw [byte, if_pos rfl, ih _ (by simp), unended_append (by simpa using single),
        endedLines_append (by simpa using single)]
      simp
    · rw [byte, if_neg newline, ih _ (by simpa using ⟨Ne.symm newline, single⟩)]
      simp

theorem bytes_done (a : Assembly) (bs : Bytes) : ∃ new, (a.bytes bs).done = new ++ a.done := by
  induction bs generalizing a with
  | nil => exact ⟨[], rfl⟩
  | cons b bs ih =>
    obtain ⟨new, grown⟩ := ih (a.byte b)
    rw [show a.bytes (b :: bs) = (a.byte b).bytes bs from rfl, grown, byte]
    split
    · exact ⟨new ++ [_], List.append_cons ..⟩
    · exact ⟨new, rfl⟩

theorem event_done (capacity : Nat) (a : Assembly) (e : Event) :
    ∃ new, (a.event capacity e).done = new ++ a.done := by
  cases e with
  | chunk bytes =>
    rw [event_chunk]
    exact a.bytes_done bytes
  | interrupt => exact ⟨[], rfl⟩
  | fault message => exact ⟨[_], rfl⟩

theorem finish_done (a : Assembly) : ∃ more, a.finish = a.done.reverse ++ more := by
  unfold finish
  split
  · exact ⟨[], by simp⟩
  · exact ⟨[_], List.reverse_cons⟩

/-- Results that are there stay, whatever is read after them. -/
theorem foldl_done (capacity : Nat) (events : List Event) (a : Assembly) :
    ∃ more, (events.foldl (event capacity) a).finish = a.done.reverse ++ more := by
  induction events generalizing a with
  | nil => exact a.finish_done
  | cons e events ih =>
    obtain ⟨new, grown⟩ := a.event_done capacity e
    obtain ⟨more, result⟩ := ih (a.event capacity e)
    rw [List.foldl_cons, result, grown]
    exact ⟨new.reverse ++ more, by simp⟩

/-- Events are as good as the bytes that they deliver, up to the first failure. -/
theorem foldl_event (capacity : Nat) (events : List Event) (a : Assembly) :
    ∃ more, (events.foldl (event capacity) a).finish =
      match failure? events with
      | none => (a.bytes (delivered events)).finish
      | some message => (a.bytes (delivered events)).done.reverse ++ .fault message :: more := by
  induction events generalizing a with
  | nil => exact ⟨[], rfl⟩
  | cons e events ih =>
    rw [List.foldl_cons]
    cases e with
    | chunk bytes =>
      rw [event_chunk, failure?, delivered, bytes_append]
      exact ih (a.bytes bytes)
    | interrupt => exact ih a
    | fault message =>
      -- reading goes on after a failure, but only adds to the results
      obtain ⟨more, result⟩ := foldl_done capacity events (a.event capacity (.fault message))
      exact ⟨more, by simpa [event, failure?, delivered, bytes] using result⟩

theorem start_bytes (bs : Bytes) :
    start.bytes bs = ⟨(unended bs).reverse, ((endedLines bs).map .line).reverse⟩ := by
  simpa [start] using start.bytes_eq bs (by simp [start])

theorem finish_start_bytes (bs : Bytes) : (start.bytes bs).finish = (linesOf bs).map .line := by
  rw [start_bytes, linesOf]
  cases last : (unended bs).reverse with
  | nil => simp [finish, List.reverse_eq_nil_iff.mp last]
  | cons b piece =>
    have filled : unended bs ≠ [] := by
      intro empty
      simp [empty] at last
    simp [finish, ← last, filled]

end Assembly

/-- The results of reading are the lines of the stream, and behind them the failure if there is one. -/
theorem lineReads_eq (capacity : Nat) (events : List Event) :
    ∃ more, lineReads capacity events =
      (streamLines events).map .line ++
        match failure? events with
        | none => []
        | some message => .fault message :: more := by
  obtain ⟨more, result⟩ := Assembly.foldl_event capacity events .start
  refine ⟨more, ?_⟩
  rw [lineReads, result, streamLines]
  cases failure? events with
  | none => simpa using Assembly.finish_start_bytes (delivered events)
  | some message => simp [Assembly.start_bytes]

end PartyBridge.ByteStream
