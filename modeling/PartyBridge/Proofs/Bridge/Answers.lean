import PartyBridge.Proofs.Bridge.Runs
import PartyBridge.Proofs.ByteStream.Lines
import PartyBridge.Proofs.Text.Blank
import PartyBridge.Proofs.Text.Lossy

/-!
# The operator's answers

The operator types lines, and every request for input that gets its prompt onto the screen is answered by the next
one (`answers_in_order`). A request whose prompt fails leaves the lines alone, and so does every other call.
-/

namespace PartyBridge

namespace Utf8

/-- Bytes are read as a text only if they are what is written for it. -/
theorem decode?_eq_some {bytes : Bytes} {text : String} : decode? bytes = some text ↔ bytes = encode text := by
  constructor
  · intro read
    unfold decode? at read
    dsimp only at read
    split at read
    · rename_i whole
      cases read
      have parts : pieces bytes = ((pieces bytes).map Piece.toChar).map .char := by
        rw [List.map_map]
        refine (List.map_id _).symm.trans (List.map_congr_left fun part member => ?_)
        have isChar := List.all_eq_true.mp whole part member
        cases part with
        | char c => rfl
        | broken => cases isChar
      have whole : pieces bytes = ((pieces bytes).map Piece.toChar).map .char ++ [] := by
        rw [List.append_nil]
        exact parts
      obtain ⟨rest, written⟩ := pieces_chars whole
      have none : pieces rest = [] := by
        have both := pieces_append ((pieces bytes).map Piece.toChar) rest
        rw [← written, ← parts] at both
        simpa using both
      cases rest with
      | nil => rw [encode, String.toList_ofList, ← List.append_nil (encodeChars _), ← written]
      | cons b rest =>
        rw [pieces_cons] at none
        cases none
    · cases read
  · rintro rfl
    exact decode?_encode text

end Utf8

namespace Text

/-- A line is what is left of it and line ends, of which nothing is left at the end. -/
theorem chomp_spec (line : List Char) :
    ∃ ends, line = chomp line ++ ends ∧ (∀ c ∈ ends, isLineEnd c) ∧ ∀ c ∈ (chomp line).getLast?, ¬ isLineEnd c := by
  refine ⟨(line.reverse.takeWhile isLineEnd).reverse, ?_, ?_, ?_⟩
  · rw [chomp, dropEndWhile, ← List.reverse_append, List.takeWhile_append_dropWhile, List.reverse_reverse]
  · intro c member
    exact List.mem_takeWhile_imp (List.mem_reverse.mp member)
  · intro c last
    rw [chomp, dropEndWhile, List.getLast?_reverse] at last
    have stops := List.head?_dropWhile_not isLineEnd line.reverse
    rw [Option.mem_def.mp last] at stops
    simpa using stops

end Text

open ByteStream

namespace Bridge

/-- What a request for input returns when it sees a line of the operator, or that there is none. -/
inductive Tells (label : String) : Option Bytes → Except BridgeError String → Prop where
  | closed : Tells label none (.error (.inputClosed label))
  | text {text ends : List Char} (lineEnds : ∀ c ∈ ends, c = '\n' ∨ c = '\r')
    (last : ∀ c ∈ text.getLast?, c ≠ '\n' ∧ c ≠ '\r') :
    Tells label (some (Utf8.encodeChars (text ++ ends))) (.ok (String.ofList text))
  | noText {line : Bytes} (broken : ∀ text, line ≠ Utf8.encode text) :
    Tells label (some line) (.error (.operator "stream did not contain valid UTF-8"))

theorem answer_line (label : String) (line : Bytes) (rest : List LineRead) :
    Tells label (some line) (answer label (.line line :: rest)).1 ∧ (answer label (.line line :: rest)).2 = rest := by
  rw [answer]
  cases read : Utf8.decode? line with
  | none =>
    refine ⟨.noText fun text written => ?_, rfl⟩
    rw [Utf8.decode?_eq_some.mpr written] at read
    cases read
  | some text =>
    refine ⟨?_, rfl⟩
    obtain ⟨ends, whole, lineEnds, last⟩ := Text.chomp_spec text.toList
    have written : line = Utf8.encodeChars (Text.chomp text.toList ++ ends) := by
      rw [← whole]
      exact Utf8.decode?_eq_some.mp read
    rw [written]
    refine .text (fun c member => ?_) (fun c member => ?_)
    · simpa [Text.isLineEnd] using lineEnds c member
    · simpa [Text.isLineEnd] using last c member

/-- An answer is what the next line tells, and takes it. -/
theorem answer_lines (label : String) (lines : List Bytes) :
    Tells label lines.head? (answer label (lines.map .line)).1 ∧
      (answer label (lines.map .line)).2 = lines.tail.map .line := by
  cases lines with
  | nil => exact ⟨.closed, rfl⟩
  | cons line lines => exact answer_line label line _

theorem encodeChars_ne_nil {text : List Char} (filled : text ≠ []) : Utf8.encodeChars text ≠ [] := by
  obtain ⟨c, rest, rfl⟩ := List.exists_cons_of_ne_nil filled
  obtain ⟨b, more, written, -⟩ := Utf8.firstPiece_encode c []
  rw [Utf8.encodeChars_cons, written]
  exact List.cons_ne_nil _ _

/-- What is told of a line has no newline if the line has none but at its end. -/
theorem Tells.newline_not_mem {label text : String} {line : Bytes} (told : Tells label (some line) (.ok text))
    (single : 10 ∉ line.dropLast) : '\n' ∉ text.toList := by
  cases told with
  | @text text ends lineEnds last =>
    rw [String.toList_ofList]
    intro newline
    obtain ⟨front, back, rfl⟩ := List.append_of_mem newline
    -- a newline at the end would have been taken off
    have more : back ≠ [] := by
      rintro rfl
      exact (last '\n' (by simp)).1 rfl
    have filled : Utf8.encodeChars (back ++ ends) ≠ [] := encodeChars_ne_nil (by simp [more])
    have written : Utf8.encodeChars (front ++ '\n' :: back ++ ends) =
        Utf8.encodeChars front ++ 10 :: Utf8.encodeChars (back ++ ends) := by
      rw [List.append_assoc, Utf8.encodeChars_append, List.cons_append, Utf8.encodeChars_cons]
      rfl
    apply single
    rw [written, List.dropLast_append_of_ne_nil (List.cons_ne_nil _ _), List.dropLast_cons_of_ne_nil filled]
    simp

/-! ### Requests for input -/

structure Asked where
  before : Bridge
  label : String

namespace Asked

/-- Whether the prompt was written and flushed. -/
def prompted (asked : Asked) : Bool :=
  (asked.before.screen.send (Call.input asked.label).shown).2.isOk

def result (asked : Asked) : Except BridgeError String :=
  (asked.before.input asked.label).2

def after (asked : Asked) : Bridge :=
  (asked.before.input asked.label).1

section
attribute [local irreducible] Utf8.encode

/-- Without a prompt nothing is read. -/
theorem unprompted {asked : Asked} (refused : asked.prompted = false) :
    (∃ message, asked.result = .error (.operator message)) ∧ asked.after.answers = asked.before.answers := by
  obtain ⟨b, label⟩ := asked
  have shown := b.display_eq ("input " ++ label ++ " : ")
  delta result after input
  dsimp only
  rw [shown]
  cases sent : (b.screen.send (Utf8.encode ("input " ++ label ++ " : "))).2 with
  | error fault => exact ⟨⟨fault.message, rfl⟩, rfl⟩
  | ok =>
    have : (Asked.mk b label).prompted = true := congrArg Except.isOk sent
    simp [this] at refused

/-- With a prompt a request returns the next answer. -/
theorem answered {asked : Asked} (prompted : asked.prompted) :
    asked.result = (answer asked.label asked.before.answers).1 ∧
      asked.after.answers = (answer asked.label asked.before.answers).2 := by
  obtain ⟨b, label⟩ := asked
  have shown := b.display_eq ("input " ++ label ++ " : ")
  delta result after input
  dsimp only
  rw [shown]
  cases sent : (b.screen.send (Utf8.encode ("input " ++ label ++ " : "))).2 with
  | error fault =>
    have : (Asked.mk b label).prompted = false := congrArg Except.isOk sent
    simp [this] at prompted
  | ok =>
    dsimp only [Except.mapError]
    rcases answer label b.answers with ⟨e | text, answers⟩ <;> exact ⟨rfl, rfl⟩

end

end Asked

def Event.asked? : Event → Option Asked
  | .call ⟨before, .input label⟩ => some ⟨before, label⟩
  | _ => none

def asks (h : List Event) : List Asked :=
  h.filterMap Event.asked?

/-- Those of them that got past their prompts. -/
def prompts (h : List Event) : List Asked :=
  (asks h).filter Asked.prompted

/-- A request saw the line at a place among some lines: it had all the lines from there on to come, and left those
behind it. -/
structure Asked.Sees (asked : Asked) (lines : List Bytes) (i : Nat) : Prop where
  told : Tells asked.label lines[i]? asked.result
  before : asked.before.answers = (lines.drop i).map .line
  after : asked.after.answers = (lines.drop (i + 1)).map .line

theorem Asked.sees {asked : Asked} (prompted : asked.prompted) {lines : List Bytes} {i : Nat}
    (before : asked.before.answers = (lines.drop i).map .line) : asked.Sees lines i := by
  obtain ⟨result, after⟩ := asked.answered prompted
  rw [before] at result after
  obtain ⟨told, left⟩ := answer_lines asked.label (lines.drop i)
  refine ⟨?_, before, ?_⟩
  · rw [result, ← List.head?_drop]
    exact told
  · rw [after, left, List.tail_drop]

structure Account (lines : List Bytes) (h : List Event) (b : Bridge) : Prop where
  left : b.answers = (lines.drop (prompts h).length).map .line
  seen : ∀ (i : Nat) (asked : Asked), (prompts h)[i]? = some asked → asked.Sees lines i

section Account
variable {lines : List Bytes} {h : List Event} {b b' : Bridge}

theorem Account.ask (account : Account lines h b) (label : String) :
    Account lines (h ++ [.call ⟨b, .input label⟩]) (Asked.mk b label).after := by
  have asked : asks (h ++ [.call ⟨b, .input label⟩]) = asks h ++ [⟨b, label⟩] := by simp [asks, Event.asked?]
  cases prompted : (Asked.mk b label).prompted with
  | false =>
    have same : prompts (h ++ [.call ⟨b, .input label⟩]) = prompts h := by
      rw [prompts, asked, List.filter_append, List.filter_cons_of_neg (by simp [prompted]), List.filter_nil,
        List.append_nil, prompts]
    refine ⟨?_, same ▸ account.seen⟩
    rw [same]
    exact (Asked.unprompted prompted).2.trans account.left
  | true =>
    have more : prompts (h ++ [.call ⟨b, .input label⟩]) = prompts h ++ [⟨b, label⟩] := by
      rw [prompts, asked, List.filter_append, List.filter_cons_of_pos prompted, List.filter_nil, prompts]
    have sees := Asked.sees prompted account.left
    refine ⟨?_, fun i other listed => ?_⟩
    · rw [more, List.length_append]
      exact sees.after
    · rw [more] at listed
      rcases Nat.lt_trichotomy i (prompts h).length with early | rfl | late
      · rw [List.getElem?_append_left early] at listed
        exact account.seen i other listed
      · rw [List.getElem?_concat_length] at listed
        cases listed
        exact sees
      · rw [List.getElem?_eq_none (by rw [List.length_append, List.length_singleton]; omega)] at listed
        cases listed

/-- Whatever else happens makes no difference. -/
theorem Account.aside (account : Account lines h b) {e : Option Event} (other : e.bind Event.asked? = none)
    (same : b'.answers = b.answers) : Account lines (h ++ e.toList) b' := by
  have asked : prompts (h ++ e.toList) = prompts h := by
    rw [prompts, asks, List.filterMap_append]
    cases e with
    | none => simp [prompts, asks]
    | some e =>
      have none : Event.asked? e = none := other
      simp [none, prompts, asks]
  exact ⟨by rw [asked, same, account.left], asked ▸ account.seen⟩

theorem closeInput_answers (b : Bridge) : b.closeInput.answers = b.answers := by
  unfold closeInput
  split <;> rfl

theorem perform_input (b : Bridge) (label : String) :
    (b.perform (.input label)).1 = (Asked.mk b label).after := by
  simp only [perform, Asked.after]

theorem run_account {after : Bridge} (typed : b.answers = lines.map .line)
    (run : Run (Step fun b b' => b'.answers = b.answers) b h after) : Account lines h after := by
  induction run with
  | refl => exact ⟨typed, by simp [prompts, asks]⟩
  | tail _ step ih =>
    cases step with
    | call call returns =>
      cases call with
      | input label =>
        rw [perform_input]
        exact ih.ask label
      | send text => exact ih.aside rfl ((perform_effect _ _).unread nofun)
      | receive => exact ih.aside rfl ((perform_effect _ _).unread nofun)
      | output text => exact ih.aside rfl ((perform_effect _ _).unread nofun)
    | close => exact ih.aside rfl (closeInput_answers _)
    | others changed => exact ih.aside rfl changed

end Account

/-- The operator's input may arrive in any chunks and with any interruptions, as long as it does not fail. A request
whose prompt cannot be written or flushed fails and takes nothing of it. The others see its lines one after another:
each returns the next line without the line ends behind it, or fails if that is no text; and when no line is left,
it fails since the input is closed. No answer has a newline in it. This holds whatever other calls are made and
whatever others do in between. -/
theorem answers_in_order {capacity : Nat} {events : List ByteStream.Event} (sound : failure? events = none)
    {b after : Bridge} (typed : b.answers = lineReads capacity events) {h : List Event}
    (run : Run (Step fun b b' => b'.answers = b.answers) b h after) :
    let lines := linesOf (delivered events)
    (∀ asked ∈ asks h, asked.prompted = false →
      (∃ message, asked.result = .error (.operator message)) ∧ asked.after.answers = asked.before.answers) ∧
    (∀ (i : Nat) (asked : Asked), (prompts h)[i]? = some asked → asked.Sees lines i) ∧
    after.answers = (lines.drop (prompts h).length).map .line ∧
    ∀ asked ∈ asks h, ∀ text, asked.result = .ok text → '\n' ∉ text.toList := by
  have read : b.answers = (linesOf (delivered events)).map .line := by
    obtain ⟨more, reads⟩ := lineReads_eq capacity events
    rw [typed, reads, streamLines, sound]
    simp
  have account := run_account read run
  refine ⟨fun asked _ refused => Asked.unprompted refused, account.seen, account.left, ?_⟩
  intro asked listed text answered
  cases prompted : asked.prompted with
  | false =>
    obtain ⟨⟨message, failed⟩, -⟩ := Asked.unprompted prompted
    rw [failed] at answered
    cases answered
  | true =>
    obtain ⟨i, here⟩ := List.mem_iff_getElem?.mp (List.mem_filter.mpr ⟨listed, prompted⟩)
    have told := (account.seen i asked here).told
    rw [answered] at told
    cases line : (linesOf (delivered events))[i]? with
    | none =>
      rw [line] at told
      cases told
    | some line' =>
      rw [line] at told
      exact told.newline_not_mem (newline_not_mem_dropLast (List.mem_of_getElem? line))

/-- Three lines, the second of which is no text and the third of which has no newline. -/
def threeLines : List ByteStream.Event :=
  [.chunk (Utf8.encode "a\r"), .interrupt, .chunk [10, 0xff], .chunk (10 :: Utf8.encode "b")]

/-- A bridge to an operator who has typed them. -/
def typedBridge : Bridge :=
  .start .unlimited .unlimited .empty (lineReads 1 threeLines) none

/-- The second request has no prompt, so that the third one sees the second line. -/
theorem answers_in_order_mixed : failure? threeLines = none ∧ ∃ h after,
    Run (Step fun b b' => b'.answers = b.answers) typedBridge h after ∧
    (asks h).map Asked.prompted = [true, false, true, true, true] ∧
    (asks h).map (·.result.toOption) = [some "a", none, none, some "b", none] ∧
    after.answers = [] ∧
    ∀ (i : Nat) (asked : Asked), (prompts h)[i]? = some asked → asked.Sees (linesOf (delivered threeLines)) i := by
  let b₁ := (typedBridge.perform (.input "x")).1
  let b₂ := { b₁ with screen := { b₁.screen with refusesFlush := true } }
  let b₃ := (b₂.perform (.input "y")).1
  let b₄ := { b₃ with screen := .unlimited }
  let b₅ := (b₄.perform (.input "y")).1
  let b₆ := (b₅.perform (.input "z")).1
  have refusing : Step (fun b b' => b'.answers = b.answers) b₁ none b₂ := .others rfl
  have mended : Step (fun b b' => b'.answers = b.answers) b₃ none b₄ := .others rfl
  have first : Run (Step fun b b' => b'.answers = b.answers) typedBridge
      [.call ⟨typedBridge, .input "x"⟩, .call ⟨b₂, .input "y"⟩] b₄ :=
    (((Run.refl.event (.of_call typedBridge (.input "x") nofun)).quiet refusing).event
      (.of_call b₂ (.input "y") nofun)).quiet mended
  have run : Run (Step fun b b' => b'.answers = b.answers) typedBridge
      [.call ⟨typedBridge, .input "x"⟩, .call ⟨b₂, .input "y"⟩, .call ⟨b₄, .input "y"⟩, .call ⟨b₅, .input "z"⟩,
        .call ⟨b₆, .input "w"⟩] (b₆.perform (.input "w")).1 :=
    ((first.event (.of_call b₄ (.input "y") nofun)).event (.of_call b₅ (.input "z") nofun)).event
      (.of_call b₆ (.input "w") nofun)
  obtain ⟨-, seen, left, -⟩ := answers_in_order (b := typedBridge) rfl rfl run
  exact ⟨rfl, _, _, run, by decide +kernel, by decide +kernel, left.trans (by decide +kernel), seen⟩

end Bridge

end PartyBridge
