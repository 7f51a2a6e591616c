import PartyBridge.ByteStream.Sink

/-!
# Writing in pieces

A sink may take what is written to it in pieces of any lengths, as long as it has room. It does not matter which
(`accepts_iff`): a sink with room for `n` bytes stores the first `n` bytes of all that is written to it.
-/

namespace PartyBridge.ByteStream.Sink

/-- A sink that has room for `n` bytes in all, and takes some of them at each write. -/
structure Limited (s : Sink) (n : Nat) : Prop where
  room : s.room = some n
  moves : s.perWrite ≠ some 0

/-- How bytes may be written: one piece after another goes into the sink, each as long as the sink likes, until
there is nothing left or no room for more. -/
inductive Accepts : Sink → Bytes → Sink → Except WriteFault Unit → Prop where
  | done (s : Sink) : Accepts s [] s (.ok ())
  | full {s : Sink} {bytes : Bytes} {room : Nat} (limit : s.room = some room) (noRoom : room ≤ s.stored.length)
    (filled : bytes ≠ []) : Accepts s bytes s (.error s.whenFull)
  | piece {s after : Sink} {first rest : Bytes} {result : Except WriteFault Unit} (filled : first ≠ [])
    (fits : ∀ room ∈ s.room, s.stored.length + first.length ≤ room)
    (more : Accepts { s with stored := s.stored ++ first } rest after result) :
    Accepts s (first ++ rest) after result

variable {s after : Sink} {n : Nat} {bytes : Bytes} {result : Except WriteFault Unit}

theorem Limited.write (limited : s.Limited n) (bytes : Bytes) :
    s.write bytes = ({ s with stored := s.stored ++ bytes.take (n - s.stored.length) },
      if bytes.length ≤ n - s.stored.length then .ok () else .error s.whenFull) := by
  unfold Sink.write
  cases bytes with
  | nil => simp
  | cons b rest =>
    have left : s.room.map (· - s.stored.length) = some (n - s.stored.length) := by rw [limited.room]; rfl
    simp only [left, limited.moves, List.isEmpty_cons, Bool.false_eq_true, if_false, Option.some.injEq]
    split
    · rename_i full
      simp [full]
    · rfl

theorem Limited.storing (limited : s.Limited n) (stored : Bytes) : { s with stored }.Limited n :=
  ⟨limited.room, limited.moves⟩

theorem Limited.after_write (limited : s.Limited n) (bytes : Bytes) : (s.write bytes).1.Limited n := by
  rw [limited.write]
  exact limited.storing _

/-- A sink that holds as much as it can of some bytes holds as much as it can of more. -/
theorem Limited.stored_write (limited : s.Limited n) {written : Bytes} (stored : s.stored = written.take n)
    (bytes : Bytes) : (s.write bytes).1.stored = (written ++ bytes).take n := by
  have left : n - s.stored.length = n - written.length := by
    rw [stored, List.length_take]
    omega
  rw [limited.write, left, stored, List.take_append]

theorem Limited.write_of_accepts (limited : s.Limited n) (accepts : s.Accepts bytes after result) :
    s.write bytes = (after, result) := by
  induction accepts with
  | done s => rfl
  | @full s bytes room limit noRoom filled =>
    obtain rfl : n = room := Option.some.inj (limited.room.symm.trans limit)
    have none : n - s.stored.length = 0 := by omega
    have long : ¬ bytes.length ≤ 0 := by simpa using filled
    rw [limited.write, none, if_neg long]
    simp
  | @piece s after first rest result filled fits more ih =>
    have wrote := ih (limited.storing _)
    have within := fits n limited.room
    have whole : first.take (n - s.stored.length) = first := List.take_of_length_le (by omega)
    rw [← wrote, limited.write, (limited.storing _).write, List.take_append, whole]
    simp only [List.length_append, List.append_assoc, Nat.sub_add_eq]
    congr 2
    exact propext (by omega)

theorem Limited.exists_accepts (limited : s.Limited n) (bytes : Bytes) :
    ∃ after result, s.Accepts bytes after result := by
  induction bytes generalizing s with
  | nil => exact ⟨s, .ok (), .done s⟩
  | cons b rest ih =>
    by_cases full : n ≤ s.stored.length
    · exact ⟨s, .error s.whenFull, .full limited.room full (List.cons_ne_nil b rest)⟩
    · obtain ⟨after, result, accepts⟩ := ih (limited.storing (s.stored ++ [b]))
      have fits : ∀ room ∈ s.room, s.stored.length + [b].length ≤ room := by
        intro room limit
        obtain rfl : n = room := Option.some.inj (limited.room.symm.trans limit)
        exact Nat.lt_of_not_le full
      exact ⟨after, result, .piece (List.cons_ne_nil b []) fits accepts⟩

/-- Whatever the pieces, what is stored and how the write ends is the same. -/
theorem Limited.accepts_iff (limited : s.Limited n) :
    s.Accepts bytes after result ↔ s.write bytes = (after, result) := by
  refine ⟨limited.write_of_accepts, fun wrote => ?_⟩
  obtain ⟨other, outcome, accepts⟩ := limited.exists_accepts bytes
  cases wrote.symm.trans (limited.write_of_accepts accepts)
  exact accepts

end PartyBridge.ByteStream.Sink
