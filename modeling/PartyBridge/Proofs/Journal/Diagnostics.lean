import PartyBridge.Proofs.Journal.Gating
import PartyBridge.Proofs.Text.Blank
import PartyBridge.Proofs.Text.Lossy

/-!
# Diagnostics in the log

The reader of diagnostics and the drain count the same lines of a stream, however it arrives and wherever it fails.
With content, the log shows every line of diagnostics that is not blank (`readers_agree`).
-/

namespace PartyBridge.ByteStream

def unterminated (line : Bytes) : Bytes :=
  if line.getLast? = some 10 then line.dropLast else line

theorem unterminated_cases (line : Bytes) : unterminated line = line ∨ line = unterminated line ++ [10] := by
  unfold unterminated
  split
  · rename_i ended
    exact .inr (List.dropLast_append_getLast? 10 ended).symm
  · exact .inl rfl

end PartyBridge.ByteStream

namespace PartyBridge.EngineOutput
open Journal ByteStream

/-- What a line of diagnostics says: its text without the blanks at its end. -/
def diagnosticText (line : Bytes) : String :=
  String.ofList (Text.trimEnd (Utf8.decodeLossy (unterminated line)).toList)

/-- A newline at the end is one of the blanks that are left out, whatever is broken in front of it. -/
theorem trimEnd_newline (bytes : Bytes) :
    Text.trimEnd (Utf8.decodeLossy (bytes ++ [10])).toList = Text.trimEnd (Utf8.decodeLossy bytes).toList := by
  have read : (Utf8.decodeLossy (bytes ++ [10])).toList = (Utf8.decodeLossy bytes).toList ++ ['\n'] := by
    have pieces := Utf8.pieces_among (List.cons_ne_nil '\n' []) bytes []
    rw [Utf8.pieces_nil, List.append_nil, List.append_nil] at pieces
    have encoded : Utf8.encodeChars ['\n'] = [10] := by decide
    rw [encoded] at pieces
    rw [Utf8.toList_decodeLossy, Utf8.toList_decodeLossy, pieces, List.map_append]
    rfl
  have blank : ∀ c ∈ ['\n'], Text.isBlank c := List.forall_mem_singleton.mpr rfl
  rw [read, Text.trimEnd, Text.trimEnd, Text.dropEndWhile_append_of_pos blank]

theorem ofList_trimEnd (line : Bytes) :
    String.ofList (Text.trimEnd (Utf8.decodeLossy line).toList) = diagnosticText line := by
  rcases unterminated_cases line with same | ended
  · rw [diagnosticText, same]
  · have read := trimEnd_newline (unterminated line)
    rw [← ended] at read
    rw [diagnosticText, read]

def diagnosticNote? (line : Bytes) : Option Note :=
  if diagnosticText line = "" then none else some (content ("[engine stderr] " ++ diagnosticText line))

namespace Diagnostics

theorem line_notes (d : Diagnostics) (line : Bytes) :
    (d.line line).notes = (diagnosticNote? line).toList ++ d.notes := by
  have empty : (Text.trimEnd (Utf8.decodeLossy line).toList).isEmpty ↔ diagnosticText line = "" := by
    rw [← ofList_trimEnd, List.isEmpty_iff]
    simp
  unfold Diagnostics.line diagnosticNote?
  dsimp only
  rw [ofList_trimEnd]
  by_cases blank : diagnosticText line = ""
  · simp [empty.mpr blank, blank]
  · simp [mt empty.mp blank, blank]

/-- The notes on lines stand in the order of the lines, the latest first. -/
theorem after_notes (d : Diagnostics) (lines : List Bytes) :
    (d.after lines).notes = (lines.filterMap diagnosticNote?).reverse ++ d.notes := by
  induction lines generalizing d with
  | nil => rfl
  | cons line lines ih =>
    have step : (d.after (line :: lines)).notes = ((d.line line).after lines).notes := rfl
    rw [step, ih, line_notes]
    cases note : diagnosticNote? line <;> simp [note]

end Diagnostics

/-- What the log shows of lines of diagnostics: one message for each that is not blank. -/
def diagnosticMessages (lines : List Bytes) : List String :=
  ((lines.map diagnosticText).filter (· ≠ "")).map ("[engine stderr] " ++ ·)

theorem messages_diagnosticNotes (lines : List Bytes) :
    Level.everything.messages (lines.filterMap diagnosticNote?) = diagnosticMessages lines := by
  induction lines with
  | nil => rfl
  | cons line lines ih =>
    by_cases blank : diagnosticText line = ""
    · have skipped : diagnosticNote? line = none := if_pos blank
      rw [List.filterMap_cons_none skipped, ih]
      simp [diagnosticMessages, blank]
    · have noted : diagnosticNote? line = some (content ("[engine stderr] " ++ diagnosticText line)) := if_neg blank
      have shown : ∀ note notes, Level.everything.messages (note :: notes) =
          note.text :: Level.everything.messages notes := fun _ _ => rfl
      rw [List.filterMap_cons_some noted, shown, ih]
      simp [diagnosticMessages, blank, content]

/-- The end of the diagnostics tells how many lines there were. -/
def closingMessage (count : Nat) : String :=
  "Engine stderr closed after " ++ Text.decimalNat count ++ " lines"

theorem Diagnostics.finish_notes (d : Diagnostics) : d.finish.notes = event (closingMessage d.lines) :: d.notes := rfl

theorem diagnostics_lines (capacity : Nat) (events : List Event) :
    (diagnostics capacity events).lines = (streamLines events).length := by
  rw [diagnostics_eq]
  exact (Diagnostics.start.after_lines (streamLines events)).trans (Nat.zero_add _)

theorem diagnostics_messages (capacity : Nat) (events : List Event) :
    Level.everything.messages (diagnostics capacity events).notes.reverse =
      diagnosticMessages (streamLines events) ++ [closingMessage (diagnostics capacity events).lines] := by
  have notes : (diagnostics capacity events).notes.reverse =
      (streamLines events).filterMap diagnosticNote? ++
        [event (closingMessage (diagnostics capacity events).lines)] := by
    rw [diagnostics_eq, Diagnostics.finish_notes, List.reverse_cons, Diagnostics.after_notes]
    have none : Diagnostics.start.notes = [] := rfl
    rw [none, List.append_nil, List.reverse_reverse]
    rfl
  have split : ∀ ns ns' : List Note,
      Level.everything.messages (ns ++ ns') = Level.everything.messages ns ++ Level.everything.messages ns' := by
    intro ns ns'
    simp [Level.messages]
  rw [notes, split, messages_diagnosticNotes]
  rfl

/-- The two readers of a stream find the same lines, through buffers of any sizes. With content, the reader of
diagnostics logs each of them that is not blank, one after another, and then their number. -/
theorem readers_agree (marker : List Char) (capacity capacity' : Nat) (events : List Event) (queue : ValueQueue) :
    let d := diagnostics capacity events
    let messages := diagnosticMessages (streamLines events) ++ [closingMessage d.lines]
    let level := Level.ofSwitches true true
    d.lines = (drain marker capacity' events queue).stats.lines ∧ d.lines = (streamLines events).length ∧
    level.messages d.notes.reverse = messages ∧
    ∀ (ledger : Ledger) (seconds : Nat), (ledger.configure level).notes seconds d.notes.reverse =
      messages.foldl (fun ledger message => ledger.writeLine (stamped seconds message)) (ledger.configure level) := by
  have logged := diagnostics_messages capacity events
  refine ⟨?_, diagnostics_lines capacity events, logged, ?_⟩
  · rw [diagnostics_lines, (drain_counts marker capacity' events queue).1]
  · intro ledger seconds
    rw [Ledger.notes_eq, Ledger.configure_level]
    exact congrArg (List.foldl _ _) logged

end PartyBridge.EngineOutput
