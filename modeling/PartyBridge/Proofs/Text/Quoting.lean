import PartyBridge.Proofs.Text.Blank
import PartyBridge.Proofs.Text.Words

/-!
# Words written with quotes

A word may be written as any stretches between single quotes, between double quotes or behind a backslash, one
after another. `quoting_round_trip` says that the splitter finds the words of such a line again, however each is
written and whatever separates them.
-/

namespace PartyBridge.Text

/-! ### Written words -/

/-- The characters that stand behind a backslash between double quotes. -/
def isShielded (c : Char) : Bool :=
  c == '$' || c == '\x60' || c == '\x22' || c == '\x5c'

/-- A character as it is written between double quotes. -/
def shield (c : Char) : List Char :=
  if isShielded c then ['\x5c', c] else [c]

/-- A stretch of a word. -/
inductive Segment where
  | single (text : List Char) (unquoted : '\x27' ∉ text)
  | double (text : List Char)
  | escaped (c : Char) (solid : isBlank c = false)

namespace Segment

def written : Segment → List Char
  | single text _ => '\x27' :: (text ++ ['\x27'])
  | double text => '\x22' :: (text.flatMap shield ++ ['\x22'])
  | escaped c _ => ['\x5c', c]

/-- What a segment says. -/
def spells : Segment → List Char
  | single text _ => text
  | double text => text
  | escaped c _ => [c]

end Segment

structure QuotedWord where
  segments : List Segment
  filled : segments ≠ []

namespace QuotedWord

def written (w : QuotedWord) : List Char :=
  w.segments.flatMap Segment.written

def spells (w : QuotedWord) : List Char :=
  w.segments.flatMap Segment.spells

end QuotedWord

/-- What stands between two words. -/
structure Gap where
  blanks : List Char
  filled : blanks ≠ []
  separates : ∀ c ∈ blanks, isSeparator c

/-- A command line of words that are written with quotes. -/
structure QuotedLine where
  first : QuotedWord
  further : List (Gap × QuotedWord)

namespace QuotedLine

def written (line : QuotedLine) : List Char :=
  line.first.written ++ line.further.flatMap fun (gap, word) => gap.blanks ++ word.written

def text (line : QuotedLine) : String :=
  String.ofList line.written

def words (line : QuotedLine) : List String :=
  (line.first :: line.further.map Prod.snd).map fun word => String.ofList word.spells

end QuotedLine

/-! ### The splitter on written words -/

namespace Splitter

variable {word : List Char} {done : List (List Char)}

theorem foldl_single {text : List Char} (unquoted : '\x27' ∉ text) :
    text.foldl step ⟨.single, word, done⟩ = ⟨.single, text.reverse ++ word, done⟩ := by
  induction text generalizing word with
  | nil => rfl
  | cons c text ih =>
    obtain ⟨other, rest⟩ := not_or.mp (mt List.mem_cons.mpr unquoted)
    have stepped : step ⟨.single, word, done⟩ c = ⟨.single, c :: word, done⟩ := by
      simp [step, keep, Ne.symm other]
    rw [List.foldl_cons, stepped, ih rest]
    simp

/-- What is written between double quotes for a character adds that character. -/
theorem foldl_shield (c : Char) :
    (shield c).foldl step ⟨.double, word, done⟩ = ⟨.double, c :: word, done⟩ := by
  unfold shield
  split
  · rename_i shielded
    simp only [isShielded, Bool.or_eq_true, beq_iff_eq] at shielded
    have special : c ≠ '\n' := by
      rintro rfl
      simp at shielded
    simp [step, enter, keep, special, or_assoc.mp (or_assoc.mp shielded)]
  · rename_i plain
    simp only [isShielded, Bool.or_eq_true, beq_iff_eq, not_or] at plain
    simp [step, keep, plain]

theorem foldl_double (text : List Char) :
    (text.flatMap shield).foldl step ⟨.double, word, done⟩ = ⟨.double, text.reverse ++ word, done⟩ := by
  induction text generalizing word with
  | nil => rfl
  | cons c text ih =>
    rw [List.flatMap_cons, List.foldl_append, foldl_shield, ih]
    simp

/-- A segment may open a word or continue one. -/
theorem foldl_segment {state : WordState} (ready : state = .between ∨ state = .plain) (segment : Segment) :
    segment.written.foldl step ⟨state, word, done⟩ = ⟨.plain, segment.spells.reverse ++ word, done⟩ := by
  cases segment with
  | single text unquoted =>
    have opened : step ⟨state, word, done⟩ '\x27' = ⟨.single, word, done⟩ := by
      rcases ready with rfl | rfl <;> rfl
    rw [Segment.written, List.foldl_cons, opened, List.foldl_append, foldl_single unquoted]
    rfl
  | double text =>
    have opened : step ⟨state, word, done⟩ '\x22' = ⟨.double, word, done⟩ := by
      rcases ready with rfl | rfl <;> rfl
    rw [Segment.written, List.foldl_cons, opened, List.foldl_append, foldl_double]
    rfl
  | escaped c solid =>
    have other : c ≠ '\n' := by
      rintro rfl
      simp [isBlank] at solid
    rcases ready with rfl | rfl <;> simp [Segment.written, Segment.spells, step, enter, keep, other]

theorem foldl_segments (segments : List Segment) :
    (segments.flatMap Segment.written).foldl step ⟨.plain, word, done⟩ =
      ⟨.plain, (segments.flatMap Segment.spells).reverse ++ word, done⟩ := by
  induction segments generalizing word with
  | nil => rfl
  | cons segment segments ih =>
    rw [List.flatMap_cons, List.foldl_append, foldl_segment (.inr rfl), ih]
    simp

theorem foldl_word (w : QuotedWord) :
    w.written.foldl step ⟨.between, [], done⟩ = ⟨.plain, w.spells.reverse, done⟩ := by
  obtain ⟨segments, filled⟩ := w
  obtain ⟨segment, segments, rfl⟩ := List.exists_cons_of_ne_nil filled
  rw [QuotedWord.written, List.flatMap_cons, List.foldl_append, foldl_segment (.inl rfl), foldl_segments]
  simp [QuotedWord.spells]

theorem foldl_gap (gap : Gap) :
    gap.blanks.foldl step ⟨.plain, word, done⟩ = ⟨.between, [], word.reverse :: done⟩ := by
  obtain ⟨blanks, filled, separates⟩ := gap
  obtain ⟨c, blanks, rfl⟩ := List.exists_cons_of_ne_nil filled
  obtain ⟨first, others⟩ := List.forall_mem_cons.mp separates
  rw [List.foldl_cons, step_plain_separator first]
  exact foldl_separators others [] _

theorem foldl_further (further : List (Gap × QuotedWord)) :
    ((further.flatMap fun (gap, word) => gap.blanks ++ word.written).foldl step ⟨.plain, word, done⟩).finish =
      .ok (done.reverse ++ word.reverse :: further.map fun (_, word) => word.spells) := by
  induction further generalizing word done with
  | nil => simp [finish, endWord]
  | cons next further ih =>
    obtain ⟨gap, next⟩ := next
    rw [List.flatMap_cons, List.foldl_append, List.foldl_append, foldl_gap, foldl_word, ih]
    simp

end Splitter

/-! ### Lines of written words -/

theorem Segment.framed (segment : Segment) : Framed segment.written := by
  cases segment with
  | single text => exact .around rfl rfl text
  | double text => exact .around rfl rfl (text.flatMap shield)
  | escaped c solid => exact .around rfl solid []

theorem QuotedWord.framed (w : QuotedWord) : Framed w.written := by
  obtain ⟨segments, filled⟩ := w
  change Framed (segments.flatMap Segment.written)
  induction segments with
  | nil => contradiction
  | cons segment segments ih =>
    by_cases last : segments = []
    · rw [last, List.flatMap_singleton]
      exact segment.framed
    · rw [List.flatMap_cons]
      exact segment.framed.append (ih last) []

theorem QuotedLine.framed (line : QuotedLine) : Framed line.written := by
  obtain ⟨first, further⟩ := line
  -- Any front of the line is framed by its first word and the word that it ends with.
  have grown : ∀ front, Framed front →
      Framed (front ++ further.flatMap fun (gap, word) => gap.blanks ++ word.written) := by
    induction further with
    | nil =>
      intro front framed
      rwa [List.flatMap_nil, List.append_nil]
    | cons next further ih =>
      intro front framed
      obtain ⟨gap, word⟩ := next
      have longer := ih _ (framed.append word.framed gap.blanks)
      simpa using longer
  exact grown _ first.framed

theorem splitWords_written (line : QuotedLine) :
    splitWords line.written = .ok (line.first.spells :: line.further.map fun (_, word) => word.spells) := by
  rw [splitWords, QuotedLine.written, List.foldl_append, Splitter.start, Splitter.foldl_word,
    Splitter.foldl_further]
  simp

theorem splitCommand_written (line : QuotedLine) : splitCommand line.text = .ok line.words := by
  rw [splitCommand_eq, QuotedLine.text, String.toList_ofList, line.framed.trim_eq, splitWords_written]
  simp [commandOf, QuotedLine.words]

/-- Every word can be written between double quotes. -/
def QuotedWord.ofWord (word : String) : QuotedWord :=
  ⟨[.double word.toList], List.cons_ne_nil _ _⟩

def Gap.single (c : Char) (separator : isSeparator c) : Gap :=
  ⟨[c], List.cons_ne_nil _ _, List.forall_mem_singleton.mpr separator⟩

theorem exists_quotedLine {words : List String} (filled : words ≠ []) : ∃ line : QuotedLine, line.words = words := by
  obtain ⟨first, further, rfl⟩ := List.exists_cons_of_ne_nil filled
  refine ⟨⟨.ofWord first, further.map fun word => (.single ' ' rfl, .ofWord word)⟩, ?_⟩
  simp [QuotedLine.words, QuotedWord.ofWord, QuotedWord.spells, Segment.spells, Function.comp_def]

/-- Any words but none can be written with quotes, and however they are written, the splitter finds them again. -/
theorem quoting_round_trip {words : List String} (filled : words ≠ []) :
    (∃ line : QuotedLine, line.words = words) ∧
    ∀ line : QuotedLine, line.words = words → splitCommand line.text = .ok words := by
  refine ⟨exists_quotedLine filled, ?_⟩
  rintro line rfl
  exact splitCommand_written line

/-- A line with an empty word, a word in three styles and a word with a newline. -/
def mixedLine : QuotedLine where
  first := ⟨[.single [] List.not_mem_nil], List.cons_ne_nil _ _⟩
  further :=
    [(⟨['\t', '\n'], List.cons_ne_nil _ _, List.all_eq_true.mp rfl⟩,
        ⟨[.single ['#', '\x5c'] (by decide), .escaped '\x27' rfl, .double ['$', 'x', '\x22']], List.cons_ne_nil _ _⟩),
      (.single ' ' rfl, ⟨[.double [' ', '\n']], List.cons_ne_nil _ _⟩)]

theorem quoting_round_trip_mixed :
    mixedLine.text = "\x27\x27\t\n\x27#\x5c\x27\x5c\x27\x22\x5c$x\x5c\x22\x22 \x22 \n\x22" ∧
    splitCommand mixedLine.text = .ok ["", "#\x5c\x27$x\x22", " \n"] := by
  have spelled : mixedLine.words = ["", "#\x5c\x27$x\x22", " \n"] := by decide
  exact ⟨by decide, (quoting_round_trip (List.cons_ne_nil _ _)).2 mixedLine spelled⟩

end PartyBridge.Text
