import PartyBridge.Proofs.Text.Blank
import PartyBridge.Proofs.Text.Words

/-!
# Command lines with blanks at their ends

A command line is trimmed before it is split, and trimming knows more blanks than splitting and nothing of quotes.
`trimmed_split` says when the words are nevertheless those of the whole line.
-/

namespace PartyBridge.Text

/-! ### The ends of a line -/

def leadBlanks (text : List Char) : List Char :=
  text.takeWhile isBlank

def tailBlanks (text : List Char) : List Char :=
  ((text.dropWhile isBlank).reverse.takeWhile isBlank).reverse

theorem cut_ends (text : List Char) : leadBlanks text ++ (trim text ++ tailBlanks text) = text := by
  have back : trim text ++ tailBlanks text = text.dropWhile isBlank := by
    rw [trim, dropEndWhile, tailBlanks, ← List.reverse_append, List.takeWhile_append_dropWhile,
      List.reverse_reverse]
  rw [back, leadBlanks, List.takeWhile_append_dropWhile]

theorem isBlank_of_mem_tailBlanks {text : List Char} : ∀ c ∈ tailBlanks text, isBlank c := by
  intro c member
  exact List.mem_takeWhile_imp (List.mem_reverse.mp member)

/-- The words of a command line as it stands, with the blanks at its ends. -/
def bareCommand (line : String) : Except CommandFault (List String) :=
  commandOf (splitWords line.toList)

/-! ### Blanks behind a line -/

namespace WordState

def quoted : WordState → Bool
  | .single | .double | .doubleBackslash => true
  | _ => false

/-- A backslash outside of quotes waits for the character that it stands before. -/
def escapes : WordState → Bool
  | .betweenBackslash | .plainBackslash => true
  | _ => false

end WordState

/-- Whether blanks add nothing to the words, in the state in which the splitter meets them. In an open quotation
nothing helps, and a comment hides the blanks in its line. -/
def harmless (state : WordState) (blanks : List Char) : Bool :=
  match state with
  | .single | .double | .doubleBackslash => true
  | .comment => (blanks.dropWhile (· != '\n')).all isSeparator
  | _ => blanks.all isSeparator

namespace Splitter

def after (text : List Char) : Splitter :=
  text.foldl step start

def kept (s : Splitter) : List Char :=
  s.done.reverse.flatten ++ s.word.reverse

/-- No character that was kept is given up. -/
theorem step_kept (s : Splitter) (c : Char) : s.kept <+: (s.step c).kept := by
  rcases s.step_cases c with ended | ⟨same, longer⟩
  · rw [ended, kept, kept, endWord]
    simp
  · rw [kept, kept, same, List.prefix_append_right_inj]
    exact List.reverse_prefix.mpr longer

theorem foldl_kept (s : Splitter) (text : List Char) : s.kept <+: (text.foldl step s).kept := by
  induction text generalizing s with
  | nil => exact List.prefix_rfl
  | cons c text ih => exact (s.step_kept c).trans (ih (s.step c))

/-- The words at the end have the characters that were kept, and no others unless a backslash is left over. -/
theorem finish_kept {s : Splitter} {words : List (List Char)} (finishes : s.finish = .ok words)
    (calm : s.state.escapes = false) : words.flatten <+: s.kept := by
  obtain ⟨state, word, done⟩ := s
  cases state with
  | between | comment =>
    cases finishes
    exact List.prefix_append _ _
  | plain =>
    cases finishes
    simp [kept, endWord]
  | betweenBackslash | plainBackslash => cases calm
  | single | double | doubleBackslash => cases finishes

/-- What a blank does where no backslash stands before it: it separates, or it is a character like others. -/
theorem step_blank {s : Splitter} {c : Char} (blank : isBlank c) (calm : s.state.escapes = false) :
    s.step c =
      match s.state with
      | .between => if isSeparator c then s else s.keep c .plain
      | .plain => if isSeparator c then s.endWord else s.keep c .plain
      | .comment => if c = '\n' then s.enter .between else s
      | .doubleBackslash => if c = '\n' then s.enter .double else (s.keep '\x5c' .double).keep c .double
      | state => s.keep c state := by
  have single : c ≠ '\x27' := by rintro rfl; cases blank
  have double : c ≠ '\x22' := by rintro rfl; cases blank
  have backslash : c ≠ '\x5c' := by rintro rfl; cases blank
  have hash : c ≠ '#' := by rintro rfl; cases blank
  have dollar : c ≠ '$' := by rintro rfl; cases blank
  have tick : c ≠ '\x60' := by rintro rfl; cases blank
  obtain ⟨state, word, done⟩ := s
  cases state with
  | betweenBackslash | plainBackslash => cases calm
  | _ => simp only [step, single, double, backslash, hash, dollar, tick, or_self, if_false]

/-- A quotation stays open over blanks. -/
theorem foldl_quoted {s : Splitter} {blanks : List Char} (blank : ∀ c ∈ blanks, isBlank c)
    (quoted : s.state.quoted) : (blanks.foldl step s).state.quoted := by
  induction blanks generalizing s with
  | nil => exact quoted
  | cons c blanks ih =>
    obtain ⟨first, others⟩ := List.forall_mem_cons.mp blank
    refine ih others ?_
    obtain ⟨state, word, done⟩ := s
    cases state with
    | single | double =>
      rw [step_blank first rfl]
      rfl
    | doubleBackslash =>
      rw [step_blank first rfl]
      dsimp only
      split <;> rfl
    | _ => cases quoted

theorem finish_quoted {s : Splitter} (quoted : s.state.quoted) : s.finish = .error .missingQuote := by
  obtain ⟨state, word, done⟩ := s
  cases state with
  | single | double | doubleBackslash => rfl
  | _ => cases quoted

/-- The splitter is in a word, or between words with none begun. -/
def Settled (s : Splitter) : Prop :=
  s.state = .plain ∨ s.state = .between ∧ s.word = []

theorem settled_finish {s : Splitter} (settled : s.Settled) :
    ∃ words, s.finish = .ok words ∧ words.flatten = s.kept := by
  obtain ⟨state, word, done⟩ := s
  rcases settled with state | ⟨state, word⟩
  · cases state
    exact ⟨_, rfl, by simp [kept, endWord]⟩
  · cases state
    cases word
    exact ⟨_, rfl, by simp [kept]⟩

theorem settled_step {s : Splitter} {c : Char} (settled : s.Settled) (blank : isBlank c) : (s.step c).Settled := by
  obtain ⟨state, word, done⟩ := s
  rcases settled with state | ⟨state, word⟩
  · cases state
    rw [step_blank blank rfl]
    dsimp only
    split
    · exact .inr ⟨rfl, rfl⟩
    · exact .inl rfl
  · cases state
    cases word
    rw [step_blank blank rfl]
    dsimp only
    split
    · exact .inr ⟨rfl, rfl⟩
    · exact .inl rfl

theorem settled_foldl {s : Splitter} {blanks : List Char} (settled : s.Settled) (blank : ∀ c ∈ blanks, isBlank c) :
    (blanks.foldl step s).Settled := by
  induction blanks generalizing s with
  | nil => exact settled
  | cons c blanks ih =>
    obtain ⟨first, others⟩ := List.forall_mem_cons.mp blank
    exact ih (settled_step settled first) others

/-- Words to which a character was added are not the old ones. -/
theorem finish_ne_of_keep {s : Splitter} {c : Char} {blanks : List Char} (calm : s.state.escapes = false)
    (blank : ∀ c ∈ blanks, isBlank c) : (blanks.foldl step (s.keep c .plain)).finish ≠ s.finish := by
  intro same
  have settled : (s.keep c .plain).Settled := .inl rfl
  obtain ⟨words, finishes, all⟩ := settled_finish (settled_foldl settled blank)
  have old := finish_kept (same ▸ finishes) calm
  have new := foldl_kept (s.keep c .plain) blanks
  have grown : (s.keep c .plain).kept = s.kept ++ [c] := by simp [kept, keep]
  rw [← all, grown] at new
  -- The new words have the character that was kept, and the old ones have no room for it.
  have longer := new.length_le
  have shorter := old.length_le
  rw [List.length_append, List.length_singleton] at longer
  omega

theorem finish_between_iff {s : Splitter} {blanks : List Char} (state : s.state = .between)
    (blank : ∀ c ∈ blanks, isBlank c) :
    (blanks.foldl step s).finish = s.finish ↔ ∀ c ∈ blanks, isSeparator c := by
  have calm : s.state.escapes = false := by rw [state]; rfl
  induction blanks with
  | nil => simp
  | cons c blanks ih =>
    obtain ⟨first, others⟩ := List.forall_mem_cons.mp blank
    rw [List.foldl_cons, step_blank first calm, state, List.forall_mem_cons]
    dsimp only
    split
    · rename_i separator
      simpa [separator] using ih others
    · rename_i other
      simp [other, finish_ne_of_keep calm others]

theorem finish_plain_iff {s : Splitter} {blanks : List Char} (state : s.state = .plain)
    (blank : ∀ c ∈ blanks, isBlank c) :
    (blanks.foldl step s).finish = s.finish ↔ ∀ c ∈ blanks, isSeparator c := by
  have calm : s.state.escapes = false := by rw [state]; rfl
  cases blanks with
  | nil => simp
  | cons c blanks =>
    obtain ⟨first, others⟩ := List.forall_mem_cons.mp blank
    have ended : s.finish = s.endWord.finish := by
      obtain ⟨_, word, done⟩ := s
      cases state
      rfl
    rw [List.foldl_cons, step_blank first calm, state, List.forall_mem_cons]
    dsimp only
    split
    · rename_i separator
      rw [ended, finish_between_iff rfl others]
      simp [separator]
    · rename_i other
      simp [other, finish_ne_of_keep calm others]

theorem finish_comment_iff {s : Splitter} {blanks : List Char} (state : s.state = .comment)
    (blank : ∀ c ∈ blanks, isBlank c) :
    (blanks.foldl step s).finish = s.finish ↔ ∀ c ∈ blanks.dropWhile (· != '\n'), isSeparator c := by
  have calm : s.state.escapes = false := by rw [state]; rfl
  induction blanks with
  | nil => simp
  | cons c blanks ih =>
    obtain ⟨first, others⟩ := List.forall_mem_cons.mp blank
    rw [List.foldl_cons, step_blank first calm, state]
    dsimp only
    split
    · rename_i newline
      have ended : s.finish = (s.enter .between).finish := by
        obtain ⟨_, word, done⟩ := s
        cases state
        rfl
      rw [ended, finish_between_iff rfl others, newline]
      simp [isSeparator]
    · rename_i other
      simpa [other] using ih others

/-- Blanks behind a line leave its words as they are just if they are harmless there. -/
theorem finish_blanks_iff {s : Splitter} {blanks : List Char} (unescaped : blanks = [] ∨ s.state.escapes = false)
    (blank : ∀ c ∈ blanks, isBlank c) :
    (blanks.foldl step s).finish = s.finish ↔ harmless s.state blanks := by
  cases state : s.state with
  | between => simpa [harmless] using finish_between_iff state blank
  | plain => simpa [harmless] using finish_plain_iff state blank
  | comment => simpa [harmless] using finish_comment_iff state blank
  | betweenBackslash | plainBackslash =>
    rw [state] at unescaped
    rcases unescaped with rfl | calm
    · simp [harmless]
    · cases calm
  | single | double | doubleBackslash =>
    have quoted : s.state.quoted := by rw [state]; rfl
    rw [finish_quoted quoted, finish_quoted (foldl_quoted blank quoted)]
    simp [harmless]

end Splitter

/-! ### Trimmed lines -/

theorem isBlank_of_isSeparator {c : Char} (separator : isSeparator c) : isBlank c := by
  simp only [isSeparator, Bool.or_eq_true, beq_iff_eq] at separator
  rcases separator with (rfl | rfl) | rfl <;> rfl

theorem harmless_of_separators {state : WordState} {blanks : List Char} (separate : ∀ c ∈ blanks, isSeparator c) :
    harmless state blanks := by
  cases state with
  | single | double | doubleBackslash => rfl
  | comment =>
    have behind : ∀ c ∈ blanks.dropWhile (· != '\n'), isSeparator c := by
      intro c member
      exact separate c ((List.dropWhile_sublist _).mem member)
    simpa [harmless] using behind
  | _ => simpa [harmless] using separate

theorem splitWords_append {lead : List Char} (separate : ∀ c ∈ lead, isSeparator c) (text blanks : List Char) :
    splitWords (lead ++ (text ++ blanks)) = (blanks.foldl Splitter.step (Splitter.after text)).finish := by
  rw [splitWords, List.foldl_append, List.foldl_append, Splitter.start, Splitter.foldl_separators separate]
  rfl

theorem finish_ne_emptyCommand (s : Splitter) : s.finish ≠ .error .emptyCommand := by
  obtain ⟨state, word, done⟩ := s
  cases state <;> simp [Splitter.finish]

theorem commandOf_inj {a b : Except CommandFault (List (List Char))} (first : a ≠ .error .emptyCommand)
    (second : b ≠ .error .emptyCommand) (same : commandOf a = commandOf b) : a = b := by
  rcases a with fault | (_ | ⟨word, more⟩) <;> rcases b with fault' | (_ | ⟨word', more'⟩)
  case ok.cons.ok.cons =>
    have parts : (word :: more).map String.ofList = (word' :: more').map String.ofList := Except.ok.inj same
    rw [(List.map_inj_right fun _ _ => String.ofList_injective).mp parts]
  all_goals simp_all [commandOf]

/-- Let no blank behind a command be escaped. Then its words are those of its line with any separators around it in
place of its blanks; and where only separators stand before it, they are the words of the line as it stands just if
the blanks behind it are harmless. -/
theorem trimmed_split (raw : String)
    (unescaped : tailBlanks raw.toList = [] ∨ (Splitter.after (trim raw.toList)).state.escapes = false) :
    let command := trim raw.toList
    let state := (Splitter.after command).state
    (∀ lead tail, (∀ c ∈ lead, isSeparator c) → (∀ c ∈ tail, isSeparator c) → tail = [] ∨ state.escapes = false →
      splitCommand raw = bareCommand (String.ofList (lead ++ (command ++ tail)))) ∧
    ((∀ c ∈ leadBlanks raw.toList, isSeparator c) →
      (splitCommand raw = bareCommand raw ↔ harmless state (tailBlanks raw.toList))) := by
  intro command state
  have trimmed : splitCommand raw = commandOf (Splitter.after command).finish := splitCommand_eq raw
  constructor
  · intro lead tail before behind unescaped
    have blank : ∀ c ∈ tail, isBlank c := fun c member => isBlank_of_isSeparator (behind c member)
    have same := (Splitter.finish_blanks_iff unescaped blank).mpr (harmless_of_separators behind)
    rw [trimmed, bareCommand, String.toList_ofList, splitWords_append before, same]
  · intro before
    have whole : bareCommand raw =
        commandOf ((tailBlanks raw.toList).foldl Splitter.step (Splitter.after command)).finish := by
      rw [← splitWords_append before, cut_ends, bareCommand]
    rw [trimmed, whole, ← Splitter.finish_blanks_iff unescaped isBlank_of_mem_tailBlanks]
    constructor
    · intro same
      exact commandOf_inj (finish_ne_emptyCommand _) (finish_ne_emptyCommand _) same.symm
    · intro same
      rw [same]

/-- A quoted space and a backslash that is escaped itself stand before the blanks of the first line, a comment before
those of the second; the third has blanks on both sides that are no separators. -/
theorem trimmed_split_backslash :
    splitCommand "\n\tsh \x27\\ \x27\\\\ \n" = .ok ["sh", "\\ \\"] ∧ splitCommand "sh # x\u00a0" = .ok ["sh"] ∧
    splitCommand "\u00a0sh\u2003" = bareCommand "\tsh\n" := by
  refine ⟨?_, ?_, ?_⟩
  · have same := (trimmed_split "\n\tsh \x27\\ \x27\\\\ \n" (.inr rfl)).2 (List.all_eq_true.mp rfl)
    rw [same.mpr rfl]
    rfl
  · have same := (trimmed_split "sh # x\u00a0" (.inr rfl)).2 (List.all_eq_true.mp rfl)
    rw [same.mpr rfl]
    rfl
  · have around := (trimmed_split "\u00a0sh\u2003" (.inr rfl)).1 ['\t'] ['\n']
    exact around (List.forall_mem_singleton.mpr rfl) (List.forall_mem_singleton.mpr rfl) (.inr rfl)

/-- A blank that is no separator is trimmed away, and belongs to a word where the line is taken as it stands. -/
theorem hard_space_trimmed :
    splitCommand "sh\u00a0" = .ok ["sh"] ∧ bareCommand "sh\u00a0" = .ok ["sh\u00a0"] :=
  ⟨rfl, rfl⟩

end PartyBridge.Text
