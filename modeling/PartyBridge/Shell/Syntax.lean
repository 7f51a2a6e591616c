import PartyBridge.Text.Utf8

/-!
# Commands of the shell

Engines and drivers are mostly small shell scripts. A script is text in which each character stands
for one byte. Words keep their quoting and the commands inside them, because expansion needs both.
-/

namespace PartyBridge.Shell

/-- Bytes as text, one character for each byte. -/
def ofBytes (bytes : Bytes) : List Char :=
  bytes.map fun b => Char.ofNat b.toNat

def toBytes (text : List Char) : Bytes :=
  text.map fun c => c.toNat.toUInt8

inductive ParamUse where
  /-- Nothing that is known. -/
  | unknown
  | plain
  | length
  | orDefault
  | ifSet
  | orFail
  | orAssign
  | trimStart (longest : Bool)
  | trimEnd (longest : Bool)
deriving Repr, DecidableEq, Inhabited

inductive RedirectKind where
  | input
  | output
  /-- Output that may replace a file in any case. -/
  | clobber
  | append
  | both
  | duplicate
  /-- The text itself; it may hold expansions. -/
  | here (expands : Bool)
deriving Repr, DecidableEq, Inhabited

structure Redirection (word : Type) where
  fd : Nat
  kind : RedirectKind
  target : word
deriving Repr, Inhabited

mutual

inductive Part where
  /-- A character that keeps its meaning. -/
  | char (c : Char)
  /-- A character that stands for itself only. -/
  | literal (c : Char)
  /-- The start or the end of a quotation. -/
  | mark
  /-- A parameter; a colon makes an empty value count as none. -/
  | param (name : List Char) (use : ParamUse) (colon : Bool) (word : List Part)
  | command (body : Option Command)
  | arith (expression : List Part)

/-- A command. The line is the one on which it starts. -/
inductive Command where
  | simple (line : Nat) (assigns words : List (List Part)) (redirects : List (Redirection (List Part)))
  | pipe (background : Bool) (commands : List Command)
  | negate (command : Command)
  | both (first second : Command)
  | either (first second : Command)
  | seq (first second : Command)
  | subshell (line : Nat) (body : Option Command) (redirects : List (Redirection (List Part)))
  | background (line : Nat) (body : Option Command) (redirects : List (Redirection (List Part)))
  | redirected (line : Nat) (body : Option Command) (redirects : List (Redirection (List Part)))
  | branch (condition body otherwise : Option Command)
  | loop (untilTrue : Bool) (condition body : Option Command)
  | each (line : Nat) (name : List Char) (words : List (List Part)) (body : Option Command)
  | select (line : Nat) (subject : List Part) (arms : List (List (List Part) × Option Command))
  | define (name : List Char) (body : Option Command)

end

instance : Inhabited Part := ⟨.mark⟩

instance : Inhabited Command := ⟨.simple 0 [] [] []⟩

abbrev Word := List Part

abbrev Redirect := Redirection Word

namespace Word

/-- The text of a word without quoting and expansions. -/
def plain? (word : Word) : Option (List Char) :=
  word.mapM fun
    | .char c => some c
    | _ => none

/-- The characters at the start of a word that keep their meaning. -/
def leading (word : Word) : List Char :=
  word.takeWhile (fun p => p matches .char _) |>.filterMap fun
    | .char c => some c
    | _ => none

def unquoted (word : Word) : List Char :=
  word.filterMap fun
    | .char c | .literal c => some c
    | _ => none

end Word

/-! ### Names -/

def isNameChar (c : Char) : Bool :=
  c.isAlphanum || c == '_'

def isNameStart (c : Char) : Bool :=
  c.isAlpha || c == '_'

def leadingName (chars : List Char) : List Char :=
  match chars with
  | c :: _ => if isNameStart c then chars.takeWhile isNameChar else []
  | [] => []

def isName (text : List Char) : Bool :=
  !text.isEmpty && (leadingName text).length == text.length

/-- Parameters with a name of one character. -/
def isSpecial (c : Char) : Bool :=
  c.isDigit || c == '@' || c == '*' || c == '#' || c == '?' || c == '-' || c == '$' || c == '!'

/-- Builtins whose failure ends the shell, and whose assignments last. -/
def isSpecialBuiltin (name : List Char) : Bool :=
  [".", ":", "break", "continue", "eval", "exec", "exit", "export", "local", "readonly", "return", "set",
    "shift", "times", "trap", "unset"].contains (String.ofList name)

end PartyBridge.Shell
