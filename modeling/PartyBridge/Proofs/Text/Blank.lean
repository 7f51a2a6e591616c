import Mathlib.Data.List.TakeWhile
import PartyBridge.Text.Blank

/-!
# Words, ends and parts of a text

How `words`, `chomp`, `trim` and `occurs` take a text apart that is put together from known parts.
-/

namespace PartyBridge.Text

/-! ### Words -/

theorem wordsAfter_nil (found : List (List Char)) {text : List Char}
    (blank : text.dropWhile isBlank = []) : wordsAfter found text = found.reverse := by
  unfold wordsAfter
  split
  · rfl
  · simp_all

theorem wordsAfter_cons (found : List (List Char)) {text rest : List Char} {c : Char}
    (first : text.dropWhile isBlank = c :: rest) :
    wordsAfter found text =
      wordsAfter ((c :: rest.takeWhile (!isBlank ·)) :: found) (rest.dropWhile (!isBlank ·)) := by
  rw [wordsAfter]
  split
  · simp_all
  · simp_all

theorem wordsAfter_eq (found : List (List Char)) (text : List Char) :
    wordsAfter found text = found.reverse ++ words text := by
  induction size : text.length using Nat.strongRecOn generalizing found text with
  | ind n ih =>
    cases first : text.dropWhile isBlank with
    | nil => simp [words, wordsAfter_nil _ first]
    | cons c rest =>
      have shorter : (rest.dropWhile (!isBlank ·)).length < n := by
        have inner := length_dropWhile_le (!isBlank ·) rest
        have outer := length_dropWhile_le isBlank text
        rw [first, List.length_cons] at outer
        omega
      rw [words, wordsAfter_cons _ first, wordsAfter_cons _ first, ih _ shorter _ _ rfl, ih _ shorter _ _ rfl]
      simp

theorem words_eq_nil {text : List Char} (blank : text.dropWhile isBlank = []) : words text = [] :=
  wordsAfter_nil [] blank

theorem words_cons {text rest : List Char} {c : Char} (first : text.dropWhile isBlank = c :: rest) :
    words text = (c :: rest.takeWhile (!isBlank ·)) :: words (rest.dropWhile (!isBlank ·)) := by
  rw [words, wordsAfter_cons _ first, wordsAfter_eq]
  rfl

/-- Blanks in front do not matter. -/
theorem words_append_of_blank {lead : List Char} (blank : ∀ c ∈ lead, isBlank c) (text : List Char) :
    words (lead ++ text) = words text := by
  have behind : (lead ++ text).dropWhile isBlank = text.dropWhile isBlank :=
    List.dropWhile_append_of_pos blank
  cases first : text.dropWhile isBlank with
  | nil => rw [words_eq_nil first, words_eq_nil (behind.trans first)]
  | cons c rest => rw [words_cons first, words_cons (behind.trans first)]

/-- A text that no word starts with: it is empty or starts with a blank. -/
def Apart (text : List Char) : Prop :=
  ∀ c ∈ text.head?, isBlank c

theorem span_apart {text : List Char} (apart : Apart text) :
    text.takeWhile (!isBlank ·) = [] ∧ text.dropWhile (!isBlank ·) = text := by
  cases text with
  | nil => simp
  | cons c rest => simp [apart c rfl]

/-- Characters that are no blanks are a word if a blank or nothing follows. -/
theorem words_append_of_word {word : List Char} (filled : word ≠ []) (solid : ∀ c ∈ word, isBlank c = false)
    {rest : List Char} (apart : Apart rest) : words (word ++ rest) = word :: words rest := by
  obtain ⟨c, more, rfl⟩ := List.exists_cons_of_ne_nil filled
  obtain ⟨first, others⟩ := List.forall_mem_cons.mp solid
  have start : (c :: (more ++ rest)).dropWhile isBlank = c :: (more ++ rest) := by simp [first]
  have inner : ∀ c ∈ more, (!isBlank c) = true := by simpa using others
  rw [List.cons_append, words_cons start, List.takeWhile_append_of_pos inner,
    List.dropWhile_append_of_pos inner, (span_apart apart).1, (span_apart apart).2, List.append_nil]

theorem apart_dropWhile (text : List Char) : Apart (text.dropWhile (!isBlank ·)) := by
  intro c first
  have stops := List.head?_dropWhile_not (!isBlank ·) text
  rw [Option.mem_def.mp first] at stops
  simpa using stops

/-- The first word of a text stands behind blanks, and a blank or nothing follows it. -/
theorem words_eq_cons {text word : List Char} {more : List (List Char)} :
    words text = word :: more ↔
      ∃ lead rest, text = lead ++ (word ++ rest) ∧ (∀ c ∈ lead, isBlank c) ∧
        (word ≠ [] ∧ ∀ c ∈ word, isBlank c = false) ∧ Apart rest ∧ words rest = more := by
  constructor
  · intro found
    have cut := List.takeWhile_append_dropWhile (p := isBlank) (l := text)
    cases first : text.dropWhile isBlank with
    | nil => simp [words_eq_nil first] at found
    | cons c rest =>
      rw [words_cons first, List.cons.injEq] at found
      obtain ⟨rfl, rfl⟩ := found
      have solid := List.head?_dropWhile_not isBlank text
      rw [first] at cut solid
      refine ⟨text.takeWhile isBlank, rest.dropWhile (!isBlank ·), ?_, fun c => List.mem_takeWhile_imp, ?_,
        apart_dropWhile rest, rfl⟩
      · rw [List.cons_append, List.takeWhile_append_dropWhile, cut]
      · refine ⟨List.cons_ne_nil _ _, List.forall_mem_cons.mpr ⟨by simpa using solid, fun d member => ?_⟩⟩
        simpa using List.mem_takeWhile_imp member
  · rintro ⟨lead, rest, rfl, blank, ⟨filled, solid⟩, apart, rfl⟩
    rw [words_append_of_blank blank, words_append_of_word filled solid apart]

theorem apart_of_blank {text : List Char} (filled : text ≠ []) (blank : ∀ c ∈ text, isBlank c)
    (rest : List Char) : Apart (text ++ rest) := by
  obtain ⟨c, more, rfl⟩ := List.exists_cons_of_ne_nil filled
  intro first found
  cases found
  exact blank c List.mem_cons_self

theorem Apart.of_start {text start : List Char} (apart : Apart text) (isStart : start <+: text) :
    Apart start := by
  obtain ⟨rest, rfl⟩ := isStart
  cases start with
  | nil => simp [Apart]
  | cons c start => exact apart

/-! ### Parts -/

theorem occurs_iff {needle text : List Char} : occurs needle text ↔ needle <:+: text := by
  induction text with
  | nil => simp [occurs]
  | cons c text ih => simp [occurs, List.infix_cons_iff, ih]

/-! ### Ends -/

theorem dropEndWhile_append_of_pos {p : Char → Bool} {ending : List Char} (all : ∀ c ∈ ending, p c)
    (text : List Char) : dropEndWhile p (text ++ ending) = dropEndWhile p text := by
  rw [dropEndWhile, List.reverse_append, List.dropWhile_append_of_pos (by simpa using all), dropEndWhile]

theorem dropEndWhile_append_of_neg {p : Char → Bool} {c : Char} (stops : ¬ p c) (front rest : List Char) :
    dropEndWhile p (front ++ c :: rest) = front ++ c :: dropEndWhile p rest := by
  simp [dropEndWhile, List.dropWhile_append, stops]

theorem dropEndWhile_isPrefix (p : Char → Bool) (text : List Char) : dropEndWhile p text <+: text := by
  rw [← List.reverse_suffix, dropEndWhile, List.reverse_reverse]
  exact List.dropWhile_suffix p

/-- A text with a first and a last character that are no blanks. -/
structure Framed (text : List Char) : Prop where
  filled : text ≠ []
  first : ∀ c ∈ text.head?, isBlank c = false
  last : ∀ c ∈ text.getLast?, isBlank c = false

theorem Framed.around {c d : Char} (first : isBlank c = false) (last : isBlank d = false) (mid : List Char) :
    Framed (c :: (mid ++ [d])) := by
  refine ⟨List.cons_ne_nil _ _, by simpa using first, ?_⟩
  rw [← List.cons_append, List.getLast?_concat]
  simpa using last

theorem Framed.append {front back : List Char} (starts : Framed front) (ends : Framed back) (mid : List Char) :
    Framed (front ++ (mid ++ back)) := by
  obtain ⟨c, rest, rfl⟩ := List.exists_cons_of_ne_nil starts.filled
  refine ⟨List.cons_ne_nil _ _, starts.first, ?_⟩
  rw [← List.append_assoc, List.getLast?_append, List.getLast?_eq_some_getLast ends.filled, Option.some_or,
    ← List.getLast?_eq_some_getLast]
  exact ends.last

theorem Framed.trim_eq {text : List Char} (framed : Framed text) : trim text = text := by
  have front : text.dropWhile isBlank = text := by
    cases text with
    | nil => rfl
    | cons c rest => simp [framed.first c rfl]
  have back : text.reverse.dropWhile isBlank = text.reverse := by
    have last := framed.last
    rw [← List.head?_reverse] at last
    cases turned : text.reverse with
    | nil => rfl
    | cons c rest =>
      rw [turned] at last
      simp [last c rfl]
  rw [trim, front, dropEndWhile, back, List.reverse_reverse]

theorem isBlank_of_isLineEnd {c : Char} (lineEnd : isLineEnd c) : isBlank c := by
  simp only [isLineEnd, Bool.or_eq_true, beq_iff_eq] at lineEnd
  rcases lineEnd with rfl | rfl <;> decide

/-- The end of a line stays behind its last word. -/
theorem chomp_append_word {word : List Char} (filled : word ≠ []) (solid : ∀ c ∈ word, isBlank c = false)
    (front tail : List Char) : chomp (front ++ (word ++ tail)) = front ++ (word ++ chomp tail) := by
  have stops : ¬ isLineEnd (word.getLast filled) := by
    intro lineEnd
    simpa [solid _ (List.getLast_mem filled)] using isBlank_of_isLineEnd lineEnd
  have cut : front ++ (word ++ tail) = (front ++ word.dropLast) ++ word.getLast filled :: tail := by
    conv => lhs; rw [← List.dropLast_concat_getLast filled]
    simp
  rw [cut, chomp, dropEndWhile_append_of_neg stops]
  conv => rhs; rw [← List.dropLast_concat_getLast filled]
  simp [chomp]

/-- A word of a line does not stand in its end. -/
theorem infix_chomp {word : List Char} (filled : word ≠ []) (solid : ∀ c ∈ word, isBlank c = false)
    {line : List Char} : word <:+: chomp line ↔ word <:+: line := by
  constructor
  · intro found
    exact found.trans (dropEndWhile_isPrefix isLineEnd line).isInfix
  · rintro ⟨front, tail, rfl⟩
    rw [List.append_assoc, chomp_append_word filled solid]
    exact ⟨front, chomp tail, List.append_assoc ..⟩

end PartyBridge.Text
