import PartyBridge.Driver.Serve

/-!
# What calls write

A call that sends or shows a text writes it, in its form, to one of the two sinks of a bridge and leaves the
other one alone.
-/

namespace PartyBridge

open ByteStream

/-- A sink that has room for some bytes, takes them and does not fail afterwards. -/
structure ByteStream.Sink.Takes (s : Sink) (bytes : Bytes) : Prop where
  room : ∀ room ∈ s.room, s.stored.length + bytes.length ≤ room
  moves : s.perWrite ≠ some 0
  flushes : s.refusesFlush = false

theorem ByteStream.Sink.write_takes {s : Sink} {bytes : Bytes} (takes : s.Takes bytes) :
    s.write bytes = ({ s with stored := s.stored ++ bytes }, .ok ()) := by
  unfold Sink.write
  cases bytes with
  | nil => simp
  | cons b bytes =>
    have moves := takes.moves
    cases limit : s.room with
    | none => simp [moves]
    | some room =>
      have enough := takes.room room limit
      have left : bytes.length + 1 ≤ room - s.stored.length := by
        rw [List.length_cons] at enough
        omega
      have hasRoom : room - s.stored.length ≠ 0 := by omega
      have whole : (b :: bytes).take (room - s.stored.length) = b :: bytes :=
        List.take_of_length_le left
      simp only [List.isEmpty_cons, Bool.false_eq_true, if_false, Option.map_some, Option.some.injEq,
        hasRoom, moves, List.length_cons, left, if_true, whole]

/-- A sink that takes some bytes stores them behind what it has. -/
theorem ByteStream.Sink.send_takes {s : Sink} {bytes : Bytes} (takes : s.Takes bytes) :
    s.send bytes = ({ s with stored := s.stored ++ bytes }, .ok ()) := by
  simp [Sink.send, Sink.write_takes takes, Sink.flush, takes.flushes]

namespace Bridge
variable {b : Bridge} {text : String}

/-- A text that is sent is a line of the engine's input. -/
theorem perform_send (isOpen : b.engineOpen) (takes : b.engine.Takes (Utf8.encode (text ++ "\n"))) :
    ∃ after, b.perform (.send text) = (after, some (.ok .ack)) ∧
      after.engine = { b.engine with stored := b.engine.stored ++ Utf8.encode (text ++ "\n") } ∧
      after.screen = b.screen := by
  simp [perform, send, isOpen, Sink.send_takes takes, log, Except.map]

theorem display_takes (takes : b.screen.Takes (Utf8.encode text)) :
    b.display text =
      ({ b with screen := { b.screen with stored := b.screen.stored ++ Utf8.encode text } }, .ok ()) := by
  rw [display, Sink.send_takes takes]

/-- A text that is shown is a line of the operator's screen. -/
theorem perform_output (takes : b.screen.Takes (Utf8.encode ("output: " ++ text ++ "\n"))) :
    ∃ after, b.perform (.output text) = (after, some (.ok .ack)) ∧
      after.screen = { b.screen with stored := b.screen.stored ++ Utf8.encode ("output: " ++ text ++ "\n") } ∧
      after.engine = b.engine := by
  have shown := display_takes takes
  delta perform output
  simp only [shown]
  exact ⟨_, rfl, rfl, rfl⟩

end Bridge

end PartyBridge
