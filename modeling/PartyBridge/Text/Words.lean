import PartyBridge.Text.Blank

/-!
# Command lines with shell quoting

`splitWords` cuts a command line into words by the quoting rules of a POSIX shell, without
expansions. `splitCommand` trims the line first and asks for at least one word.
-/

namespace PartyBridge.Text

inductive CommandFault where
  | emptyCommand
  | missingQuote
deriving Repr, DecidableEq

def CommandFault.message : CommandFault → String
  | .emptyCommand => "command is empty"
  | .missingQuote => "missing closing quote"

/-- Where the splitter stands: between words, after a backslash there, in an unquoted stretch of a
word, in a quoted one, after a backslash in either, or in a comment. -/
inductive WordState where
  | between
  | betweenBackslash
  | plain
  | plainBackslash
  | single
  | double
  | doubleBackslash
  | comment
deriving Repr, DecidableEq

structure Splitter where
  state : WordState
  word : List Char
  done : List (List Char)
deriving Repr, DecidableEq

def Splitter.start : Splitter :=
  ⟨.between, [], []⟩

def Splitter.enter (s : Splitter) (state : WordState) : Splitter :=
  { s with state }

def Splitter.keep (s : Splitter) (c : Char) (state : WordState) : Splitter :=
  { s with word := c :: s.word, state }

def Splitter.endWord (s : Splitter) : Splitter :=
  ⟨.between, [], s.word.reverse :: s.done⟩

/-- Blanks between words are spaces, tabs and newlines only. -/
def isSeparator (c : Char) : Bool :=
  c == ' ' || c == '\t' || c == '\n'

def Splitter.step (s : Splitter) (c : Char) : Splitter :=
  match s.state with
  | .between =>
    if c = '\x27' then s.enter .single
    else if c = '\x22' then s.enter .double
    else if c = '\x5c' then s.enter .betweenBackslash
    else if isSeparator c then s
    else if c = '#' then s.enter .comment
    else s.keep c .plain
  | .betweenBackslash =>
    if c = '\n' then s.enter .between else s.keep c .plain
  | .plain =>
    if c = '\x27' then s.enter .single
    else if c = '\x22' then s.enter .double
    else if c = '\x5c' then s.enter .plainBackslash
    else if isSeparator c then s.endWord
    else s.keep c .plain
  | .plainBackslash =>
    if c = '\n' then s.enter .plain else s.keep c .plain
  | .single =>
    if c = '\x27' then s.enter .plain else s.keep c .single
  | .double =>
    if c = '\x22' then s.enter .plain
    else if c = '\x5c' then s.enter .doubleBackslash
    else s.keep c .double
  | .doubleBackslash =>
    if c = '\n' then s.enter .double
    else if c = '$' ∨ c = '\x60' ∨ c = '\x22' ∨ c = '\x5c' then s.keep c .double
    else (s.keep '\x5c' .double).keep c .double
  | .comment =>
    if c = '\n' then s.enter .between else s

/-- The words at the end of the line, oldest first. A lone backslash at the end stands for itself. -/
def Splitter.finish (s : Splitter) : Except CommandFault (List (List Char)) :=
  match s.state with
  | .between | .comment => .ok s.done.reverse
  | .plain => .ok s.endWord.done.reverse
  | .betweenBackslash | .plainBackslash => .ok (s.keep '\x5c' .plain).endWord.done.reverse
  | .single | .double | .doubleBackslash => .error .missingQuote

def splitWords (line : List Char) : Except CommandFault (List (List Char)) :=
  (line.foldl Splitter.step Splitter.start).finish

/-- The words of a command line that has to name a command. -/
def splitCommand (line : String) : Except CommandFault (List String) :=
  match trim line.toList with
  | [] => .error .emptyCommand
  | text =>
    match splitWords text with
    | .error fault => .error fault
    | .ok [] => .error .emptyCommand
    | .ok parts => .ok (parts.map String.ofList)

end PartyBridge.Text
