import PartyBridge.Text.Words

/-!
# Command lines whose first word is empty

Quotes with nothing between them are a word without characters. `StartsHollow` says how a command line looks
whose first word is made of such quotes only, and `splitWords_head_iff` that these are the lines in which the
splitter finds an empty word first.
-/

namespace PartyBridge.Text

/-! ### Empty words -/

inductive Joins : List Char → Prop where
  | none : Joins []
  | more {text : List Char} (rest : Joins text) : Joins ('\x5c' :: '\n' :: text)

/-- Quotes around nothing. Between double quotes lines may be joined. -/
inductive EmptyQuotes : List Char → Prop where
  | single : EmptyQuotes ['\x27', '\x27']
  | double {text : List Char} (joins : Joins text) : EmptyQuotes ('\x22' :: (text ++ ['\x22']))

/-- A text that adds nothing to the empty quotes before it. -/
inductive EndsHollow : List Char → Prop where
  | ended : EndsHollow []
  | separated {c : Char} {text : List Char} (separator : isSeparator c) : EndsHollow (c :: text)
  | joined {text : List Char} (rest : EndsHollow text) : EndsHollow ('\x5c' :: '\n' :: text)
  | quotes {quotes text : List Char} (empty : EmptyQuotes quotes) (rest : EndsHollow text) :
    EndsHollow (quotes ++ text)

/-- A command line whose first word is made of empty quotes, behind any separators, joined lines and
comments. -/
inductive StartsHollow : List Char → Prop where
  | separated {c : Char} {text : List Char} (separator : isSeparator c) (rest : StartsHollow text) :
    StartsHollow (c :: text)
  | joined {text : List Char} (rest : StartsHollow text) : StartsHollow ('\x5c' :: '\n' :: text)
  | comment {words text : List Char} (inLine : '\n' ∉ words) (rest : StartsHollow text) :
    StartsHollow ('#' :: (words ++ '\n' :: text))
  | quotes {quotes text : List Char} (empty : EmptyQuotes quotes) (rest : EndsHollow text) :
    StartsHollow (quotes ++ text)

/-- What has to follow in a state of the splitter for its word to stay empty. -/
def Awaits : WordState → List Char → Prop
  | .between, text => StartsHollow text
  | .betweenBackslash, text => ∃ rest, text = '\n' :: rest ∧ StartsHollow rest
  | .plain, text => EndsHollow text
  | .plainBackslash, text => ∃ rest, text = '\n' :: rest ∧ EndsHollow rest
  | .single, text => ∃ rest, text = '\x27' :: rest ∧ EndsHollow rest
  | .double, text => ∃ joins rest, Joins joins ∧ text = joins ++ '\x22' :: rest ∧ EndsHollow rest
  | .doubleBackslash, text =>
    ∃ joins rest, Joins joins ∧ text = '\n' :: (joins ++ '\x22' :: rest) ∧ EndsHollow rest
  | .comment, text => ∃ words rest, '\n' ∉ words ∧ text = words ++ '\n' :: rest ∧ StartsHollow rest

theorem not_startsHollow_nil : ¬ StartsHollow [] := by
  intro starts
  generalize whole : [] = line at starts
  cases starts with
  | quotes empty rest => cases empty <;> cases whole
  | _ => cases whole

section Cons
variable {c : Char} {text : List Char}

theorem awaits_quote {quotes rest : List Char} (empty : EmptyQuotes quotes) (ends : EndsHollow rest)
    (cut : c :: text = quotes ++ rest) :
    c = '\x27' ∧ Awaits .single text ∨ c = '\x22' ∧ Awaits .double text := by
  cases empty with
  | single =>
    cases cut
    exact .inl ⟨rfl, rest, rfl, ends⟩
  | double joins =>
    cases cut
    exact .inr ⟨rfl, _, rest, joins, by simp, ends⟩

theorem endsHollow_cons : EndsHollow (c :: text) ↔
    c = '\x27' ∧ Awaits .single text ∨ c = '\x22' ∧ Awaits .double text ∨
    c = '\x5c' ∧ Awaits .plainBackslash text ∨ isSeparator c := by
  constructor
  · intro ends
    generalize whole : c :: text = line at ends
    cases ends with
    | ended => cases whole
    | separated separator =>
      cases whole
      exact .inr (.inr (.inr separator))
    | joined rest =>
      cases whole
      exact .inr (.inr (.inl ⟨rfl, _, rfl, rest⟩))
    | quotes empty rest =>
      rcases awaits_quote empty rest whole with single | double
      · exact .inl single
      · exact .inr (.inl double)
  · rintro (⟨rfl, rest, rfl, ends⟩ | ⟨rfl, joins, rest, joined, rfl, ends⟩ | ⟨rfl, rest, rfl, ends⟩ | separator)
    · exact .quotes .single ends
    · simpa using EndsHollow.quotes (.double joined) ends
    · exact .joined ends
    · exact .separated separator

theorem startsHollow_cons : StartsHollow (c :: text) ↔
    c = '\x27' ∧ Awaits .single text ∨ c = '\x22' ∧ Awaits .double text ∨
    c = '\x5c' ∧ Awaits .betweenBackslash text ∨ isSeparator c ∧ StartsHollow text ∨
    c = '#' ∧ Awaits .comment text := by
  constructor
  · intro starts
    generalize whole : c :: text = line at starts
    cases starts with
    | separated separator rest =>
      cases whole
      exact .inr (.inr (.inr (.inl ⟨separator, rest⟩)))
    | joined rest =>
      cases whole
      exact .inr (.inr (.inl ⟨rfl, _, rfl, rest⟩))
    | comment inLine rest =>
      cases whole
      exact .inr (.inr (.inr (.inr ⟨rfl, _, _, inLine, rfl, rest⟩)))
    | quotes empty rest =>
      rcases awaits_quote empty rest whole with single | double
      · exact .inl single
      · exact .inr (.inl double)
  · rintro (⟨rfl, rest, rfl, ends⟩ | ⟨rfl, joins, rest, joined, rfl, ends⟩ | ⟨rfl, rest, rfl, starts⟩ |
      ⟨separator, starts⟩ | ⟨rfl, words, rest, inLine, rfl, starts⟩)
    · exact .quotes .single ends
    · simpa using StartsHollow.quotes (.double joined) ends
    · exact .joined starts
    · exact .separated separator starts
    · exact .comment inLine starts

theorem awaits_double_cons : Awaits .double (c :: text) ↔
    c = '\x22' ∧ EndsHollow text ∨ c = '\x5c' ∧ Awaits .doubleBackslash text := by
  constructor
  · rintro ⟨joins, rest, joined, cut, ends⟩
    cases joined with
    | none =>
      cases cut
      exact .inl ⟨rfl, ends⟩
    | more more =>
      cases cut
      exact .inr ⟨rfl, _, rest, more, rfl, ends⟩
  · rintro (⟨rfl, ends⟩ | ⟨rfl, joins, rest, joined, rfl, ends⟩)
    · exact ⟨[], text, .none, rfl, ends⟩
    · exact ⟨_, rest, .more joined, rfl, ends⟩

theorem awaits_comment_cons : Awaits .comment (c :: text) ↔
    c = '\n' ∧ StartsHollow text ∨ c ≠ '\n' ∧ Awaits .comment text := by
  constructor
  · rintro ⟨words, rest, inLine, cut, starts⟩
    cases words with
    | nil =>
      cases cut
      exact .inl ⟨rfl, starts⟩
    | cons first words =>
      cases cut
      rw [List.mem_cons, not_or] at inLine
      exact .inr ⟨Ne.symm inLine.1, words, rest, inLine.2, rfl, starts⟩
  · rintro (⟨rfl, starts⟩ | ⟨other, words, rest, inLine, rfl, starts⟩)
    · exact ⟨[], text, List.not_mem_nil, rfl, starts⟩
    · exact ⟨c :: words, rest, by simp [Ne.symm other, inLine], rfl, starts⟩

end Cons

/-! ### The splitter -/

/-- The first word is empty: the splitter has found it so, or is on its way to it. -/
def Splitter.Hollow (s : Splitter) (text : List Char) : Prop :=
  match s.done.getLast? with
  | some first => first = []
  | none => s.word = [] ∧ Awaits s.state text

namespace Splitter

theorem step_plain_separator {c : Char} (separator : isSeparator c) (word : List Char) (done : List (List Char)) :
    step ⟨.plain, word, done⟩ c = ⟨.between, [], word.reverse :: done⟩ := by
  simp only [isSeparator, Bool.or_eq_true, beq_iff_eq] at separator
  rcases separator with (rfl | rfl) | rfl <;> rfl

/-- Separators between words mean nothing. -/
theorem foldl_separators {text : List Char} (separate : ∀ c ∈ text, isSeparator c) (word : List Char)
    (done : List (List Char)) : text.foldl step ⟨.between, word, done⟩ = ⟨.between, word, done⟩ := by
  induction text with
  | nil => rfl
  | cons c text ih =>
    obtain ⟨first, others⟩ := List.forall_mem_cons.mp separate
    have stays : step ⟨.between, word, done⟩ c = ⟨.between, word, done⟩ := by
      simp only [isSeparator, Bool.or_eq_true, beq_iff_eq] at first
      rcases first with (rfl | rfl) | rfl <;> rfl
    rw [List.foldl_cons, stays, ih others]

/-- A step ends the word, or the words found stay as they are and the word is at most prolonged. -/
theorem step_cases (s : Splitter) (c : Char) :
    s.step c = s.endWord ∨ (s.step c).done = s.done ∧ s.word <:+ (s.step c).word := by
  unfold step
  split
  all_goals repeat' split
  all_goals simp [enter, keep, List.suffix_cons_iff]

theorem step_hollow_start (state : WordState) (c : Char) (text : List Char) :
    (Splitter.step ⟨state, [], []⟩ c).Hollow text ↔ Awaits state (c :: text) := by
  cases state with
  | between =>
    have hash : isSeparator '#' = false := rfl
    simp only [step, Awaits, startsHollow_cons]
    repeat' split
    all_goals grind [Hollow, enter, keep, isSeparator, Awaits]
  | plain =>
    simp only [step, Awaits, endsHollow_cons]
    repeat' split
    all_goals simp_all [Hollow, enter, keep, endWord, isSeparator, Awaits]
  | double =>
    simp only [step, awaits_double_cons]
    repeat' split
    all_goals simp_all [Hollow, enter, keep, Awaits]
  | comment =>
    simp only [step, awaits_comment_cons]
    split
    all_goals simp_all [Hollow, enter, Awaits]
  | betweenBackslash | plainBackslash | single | doubleBackslash =>
    simp only [step, Awaits]
    repeat' split
    all_goals simp_all [Hollow, enter, keep, Awaits]

theorem step_hollow (s : Splitter) (c : Char) (text : List Char) :
    (s.step c).Hollow text ↔ s.Hollow (c :: text) := by
  obtain ⟨state, word, done⟩ := s
  cases found : done.getLast? with
  | some first =>
    -- the words are found last first, so the first of them stays
    have kept : (step ⟨state, word, done⟩ c).done.getLast? = some first := by
      rcases step_cases ⟨state, word, done⟩ c with ended | ⟨same, -⟩
      · rw [ended, endWord, List.getLast?_cons, found, Option.getD_some]
      · rw [same, found]
    simp [Hollow, kept, found]
  | none =>
    cases List.getLast?_eq_none_iff.mp found
    cases word with
    | nil => simpa [Hollow] using step_hollow_start state c text
    | cons letter word =>
      -- a word that has a letter never becomes empty again
      rcases step_cases ⟨state, letter :: word, []⟩ c with ended | ⟨same, longer⟩
      · simp [Hollow, ended, endWord]
      · have filled : (step ⟨state, letter :: word, []⟩ c).word ≠ [] := by
          intro empty
          simp [empty] at longer
        simp [Hollow, same, filled]

theorem foldl_hollow (s : Splitter) (text : List Char) :
    (text.foldl step s).Hollow [] ↔ s.Hollow text := by
  induction text generalizing s with
  | nil => rfl
  | cons c text ih => rw [List.foldl_cons, ih, step_hollow]

theorem finish_hollow {s : Splitter} {words : List (List Char)} (finishes : s.finish = .ok words) :
    words.head? = some [] ↔ s.Hollow [] := by
  obtain ⟨state, word, done⟩ := s
  cases found : done.getLast? with
  | some first =>
    cases state <;> cases finishes <;> simp [Hollow, endWord, keep, List.head?_reverse, found]
  | none =>
    cases List.getLast?_eq_none_iff.mp found
    cases state <;> cases finishes <;>
      simp [Hollow, endWord, keep, Awaits, not_startsHollow_nil, EndsHollow.ended]

end Splitter

theorem splitWords_head_iff {line : List Char} {words : List (List Char)} (splits : splitWords line = .ok words) :
    words.head? = some [] ↔ StartsHollow line := by
  rw [Splitter.finish_hollow splits, Splitter.foldl_hollow]
  simp [Splitter.Hollow, Splitter.start, Awaits]

/-- What the words of a line are as a command, which has at least one. -/
def commandOf : Except CommandFault (List (List Char)) → Except CommandFault (List String)
  | .error fault => .error fault
  | .ok [] => .error .emptyCommand
  | .ok parts => .ok (parts.map String.ofList)

theorem splitCommand_eq (line : String) : splitCommand line = commandOf (splitWords (trim line.toList)) := by
  unfold splitCommand
  split
  · rename_i empty
    rw [empty]
    rfl
  · split <;> rename_i split
    · rw [split, commandOf]
    · rw [split, commandOf]
    · rw [split, commandOf]
      assumption

/-- A command has a first word, which is empty where the command opens with empty quotes. -/
theorem splitCommand_cons {line : String} {parts : List String} (splits : splitCommand line = .ok parts) :
    ∃ program args, parts = program :: args ∧ (program = "" ↔ StartsHollow (trim line.toList)) := by
  rw [splitCommand_eq] at splits
  cases split : splitWords (trim line.toList) with
  | error fault => simp [split, commandOf] at splits
  | ok words =>
    rw [split] at splits
    cases words with
    | nil => cases splits
    | cons program args =>
      cases splits
      refine ⟨String.ofList program, args.map String.ofList, rfl, ?_⟩
      rw [← splitWords_head_iff split]
      simp

end PartyBridge.Text
