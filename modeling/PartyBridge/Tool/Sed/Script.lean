import PartyBridge.Tool.RegexReader

/-!
# Scripts of the stream editor

A script is a list of commands, each with the lines it is for.
-/

namespace PartyBridge.Tool.Sed

/-! ### Commands -/

/-- An expression in a script; none stands for the last one that was used. -/
abbrev Pattern := Option Matcher

inductive Address where
  | line (n : Nat)
  /-- Every so many lines from one on. -/
  | step (first by' : Nat)
  | last
  | pattern (p : Pattern)
  /-- So many lines behind the start of a range. -/
  | plus (n : Nat)
  /-- Up to a multiple of a number. -/
  | multiple (n : Nat)
deriving Repr, Inhabited

inductive Casing where
  | plain
  | upper
  | lower
deriving Repr, DecidableEq, Inhabited

/-- A piece of a replacement: a text, then a group, with the casing of both and of the first
character. -/
structure Piece where
  text : List Char
  group : Option Nat
  casing : Casing
  first : Casing
deriving Repr, DecidableEq, Inhabited

inductive Outlet where
  | output
  /-- Standard output under its name as a file. -/
  | copy
  | errors
  | file (name : List Char)
deriving Repr, DecidableEq, Inhabited

structure Substitution where
  pattern : Pattern
  pieces : List Piece
  /-- The highest group that the replacement asks for. -/
  highest : Nat
  everywhere : Bool
  /-- From which match on. -/
  number : Nat
  print : Bool
  outlet : Option Outlet
deriving Repr, Inhabited

inductive JumpKind where
  | always
  | ifReplaced
  | unlessReplaced
deriving Repr, DecidableEq, Inhabited

/-- What a command does. Places are numbers of commands. -/
inductive Action where
  | block (stop : Nat)
  | nothing
  | number
  | append (text : List Char)
  | insert (text : List Char)
  | change (text : List Char)
  | jump (kind : JumpKind) (target : Nat)
  | delete
  | deleteFirst
  | fileName
  | get
  | getMore
  | hold
  | holdMore
  | show (width : Option Nat)
  | next
  | nextMore
  | print
  | printFirst
  | quit (silent : Bool) (code : Nat)
  | readFile (name : List Char)
  | readLine (name : List Char)
  | substitute (s : Substitution)
  | write (outlet : Outlet)
  | writeFirst (outlet : Outlet)
  | exchange
  | translate (table : List (Char × Char))
  | zap
deriving Repr, Inhabited

structure Edit where
  first : Option Address
  second : Option Address
  inverted : Bool
  action : Action
deriving Repr, Inhabited

/-! ### Reading -/

inductive ScriptFault where
  /-- A message with the number of the script and of the last character that was read. -/
  | at (script char : Nat) (text : String)
  /-- A message of its own. -/
  | plain (text : List Char)
deriving Repr, Inhabited

structure Reader where
  text : List Char
  taken : Nat
  script : Nat
  extended : Bool
  quiet : Bool
  edits : List Edit
  /-- Blocks that are open: the number of the command and of its script. -/
  blocks : List (Nat × Nat)
  labels : List (List Char × Nat)
  /-- Jumps to labels, by the number of the command. -/
  jumps : List (Nat × List Char)
  /-- The text of the last command goes on in the next script. -/
  pending : Option (List Char)
deriving Inhabited

abbrev ReaderM := StateT Reader (Except ScriptFault)

def bad {α : Type} (text : String) : ReaderM α := do
  let r ← get
  throw (.at r.script r.taken text)

/-- The next character; none at the end of the script. -/
def take? : ReaderM (Option Char) := do
  let r ← get
  match r.text with
  | [] => return none
  | c :: text =>
    set { r with text, taken := r.taken + 1 }
    return some c

def giveBack (c : Option Char) : ReaderM Unit :=
  match c with
  | some c => modify fun r => { r with text := c :: r.text, taken := r.taken - 1 }
  | none => pure ()

def isBlank (c : Char) : Bool :=
  c == ' ' || c == '\t'

def isSpace (c : Char) : Bool :=
  c == ' ' || (9 ≤ c.toNat && c.toNat ≤ 13)

def takeWhile (test : Char → Bool) : ReaderM (List Char) := do
  let r ← get
  let taken := r.text.takeWhile test
  set { r with text := r.text.drop taken.length, taken := r.taken + taken.length }
  return taken

def takeNonblank? : ReaderM (Option Char) := do
  let _ ← takeWhile isBlank
  take?

def number : ReaderM Nat := do
  let digits ← takeWhile Char.isDigit
  return digits.foldl (fun n c => n * 10 + (c.toNat - 48)) 0

def endOfCommand : ReaderM Unit := do
  match ← takeNonblank? with
  | none | some '\n' | some ';' => pure ()
  | some c => if c == '\x7d' || c == '#' then giveBack (some c) else bad "extra characters after command"

/-! ### Escapes -/

inductive TextUse where
  | plain
  | pattern
  | replacement
deriving Repr, DecidableEq, Inhabited

def digitValue (c : Char) : Nat :=
  if c.isDigit then c.toNat - 48
  else if 'a' ≤ c && c ≤ 'f' then c.toNat - 87
  else if 'A' ≤ c && c ≤ 'F' then c.toNat - 55
  else 99

/-- The character of a number in some base, with at most so many digits. Without a digit the letter
stands for itself. -/
def numbered (letter : Char) (base most : Nat) (text : List Char) : Char × List Char :=
  let digits := (text.take most).takeWhile fun c => digitValue c < base
  if digits.isEmpty then (letter, text)
  else (Char.ofNat (digits.foldl (fun n c => n * base + digitValue c) 0 % 256), text.drop digits.length)

/-- Replaces the escapes that stand for one character; other backslashes stay. -/
def unescape (use : TextUse) : Nat → List Char → Except String (List Char)
  | 0, _ => .ok []
  | _ + 1, [] => .ok []
  | fuel + 1, '\x5c' :: c :: rest =>
    let keep (chars rest : List Char) : Except String (List Char) :=
      match unescape use fuel rest with
      | .ok more => .ok (chars ++ more)
      | .error e => .error e
    let byNumber (base most : Nat) : Except String (List Char) :=
      let (d, after) := numbered c base most rest
      let guarded := after.length < rest.length && use = .replacement && (d == '&' || d == '\x5c')
      keep (if guarded then ['\x5c', d] else [d]) after
    match c with
    | 'a' => keep [Char.ofNat 7] rest
    | 'f' => keep [Char.ofNat 12] rest
    | 'n' => keep (if use = .plain then ['\x5c', 'n'] else ['\n']) rest
    | 'r' => keep ['\r'] rest
    | 't' => keep ['\t'] rest
    | 'v' => keep [Char.ofNat 11] rest
    | 'd' => byNumber 10 3
    | 'o' => byNumber 8 3
    | 'x' => byNumber 16 2
    | 'c' =>
      match rest with
      | [] => keep ['\x5c'] []
      | '\x5c' :: '\x5c' :: rest => keep [Char.ofNat 28] rest
      | '\x5c' :: _ => .error "recursive escaping after \\c not allowed"
      | d :: rest => keep [Char.ofNat (Nat.xor d.toUpper.toNat 64)] rest
    | c => keep ['\x5c', c] rest
  | fuel + 1, c :: rest =>
    match unescape use fuel rest with
    | .ok more => .ok (c :: more)
    | .error e => .error e

def unescaped (use : TextUse) (text : List Char) : ReaderM (List Char) :=
  match unescape use (text.length + 1) text with
  | .ok text => pure text
  | .error e => bad e

/-! ### Texts between marks -/

/-- Where in a set of characters a text is. -/
inductive InSet where
  | outside
  /-- Behind the opening bracket, where a closing one is plain. -/
  | start
  | afterCaret
  | inside
  /-- In the name of a class or a symbol; its mark, and whether that has just come. -/
  | named (mark : Char) (closing : Bool)
deriving Repr, DecidableEq, Inhabited

/-- Reads up to a mark; the mark loses its meaning behind a backslash, and in a set of characters of an
expression. None if the mark does not come on this line. -/
def upToMark (mark : Char) (pattern : Bool) : Nat → InSet → List Char → ReaderM (Option (List Char))
  | 0, _, _ => return none
  | fuel + 1, place, acc => do
    match ← take? with
    | none => return none
    | some '\n' =>
      giveBack (some '\n')
      return none
    | some c =>
      let plain : Bool := place == .outside
      if c == mark && plain then return some acc.reverse
      else if c == '\x5c' && (plain || (← get).text.head? == some 'n') then
        match ← take? with
        | none => return none
        | some d =>
          let place := if plain then place else .inside
          if d == mark && !(d == '&' && !pattern) then upToMark mark pattern fuel place (d :: acc)
          else if d == 'n' && pattern then upToMark mark pattern fuel place ('\n' :: acc)
          else if d == '\n' then upToMark mark pattern fuel place ('\n' :: acc)
          else upToMark mark pattern fuel place (d :: c :: acc)
      else
        let next : InSet :=
          if !pattern then .outside
          else
            match place with
            | .outside => if c == '[' then .start else .outside
            | .start => if c == '^' then .afterCaret else .inside
            | .afterCaret => .inside
            | .inside => if c == ']' then .outside else .inside
            | .named m closing =>
              if closing && c == ']' then .inside else .named m (c == m)
        let opens := pattern && !plain && c == '['
        let next : InSet :=
          match (← get).text with
          | d :: _ =>
            if opens && (d == ':' || d == '.' || d == '=') && !(place matches .named ..) then .named d false
            else next
          | [] => next
        upToMark mark pattern fuel next (c :: acc)

def delimited (mark : Char) (pattern : Bool) : ReaderM (Option (List Char)) := do
  upToMark mark pattern ((← get).text.length + 1) .outside []

def pattern (text : List Char) (ignoreCase multiline : Bool) (needed : Nat) : ReaderM Pattern := do
  if text.isEmpty then
    if ignoreCase || multiline then bad "cannot specify modifiers on empty regexp" else return none
  else
    let text ← unescaped .pattern text
    match readRegex ⟨(← get).extended, ignoreCase, multiline⟩ text with
    | .error f => bad f.message
    | .ok m =>
      if m.groups < needed then bad s!"invalid reference \\{needed} on \x60s' command's RHS"
      else return some m

/-! ### Addresses -/

def addressPattern (text : List Char) : Nat → Bool → Bool → ReaderM Pattern
  | 0, _, _ => return none
  | fuel + 1, ignoreCase, multiline => do
    match ← takeNonblank? with
    | some 'I' => addressPattern text fuel true multiline
    | some 'M' => addressPattern text fuel ignoreCase true
    | c =>
      giveBack c
      pattern text ignoreCase multiline 0

/-- Reads an address that starts with a character; none if it does not. -/
def address? (c : Option Char) : ReaderM (Option Address) := do
  match c with
  | some '/' | some '\x5c' =>
    let mark ← if c == some '\x5c' then take? else pure c
    match mark with
    | none => bad "unterminated address regex"
    | some mark =>
      match ← delimited mark true with
      | none => bad "unterminated address regex"
      | some text => return some (.pattern (← addressPattern text ((← get).text.length + 1) false false))
  | some '$' => return some .last
  | some '+' | some '~' =>
    let _ ← takeWhile isBlank
    let n ← number
    return some (if c == some '+' then .plus n else .multiple n)
  | some d =>
    if d.isDigit then
      giveBack c
      let n ← number
      match ← takeNonblank? with
      | some '~' =>
        let _ ← takeWhile isBlank
        let by' ← number
        return some (if by' = 0 then .line n else .step n by')
      | c =>
        giveBack c
        return some (.line n)
    else return none
  | none => return none

/-! ### Replacements -/

/-- The pieces of a replacement; `casing` holds from here on, `first` for the next character. -/
def pieces : Nat → (casing first : Casing) → List Char → List Char → List Piece
  | 0, _, _, _, _ => []
  | _ + 1, casing, first, acc, [] => if acc.isEmpty then [] else [⟨acc.reverse, none, casing, first⟩]
  | fuel + 1, casing, first, acc, c :: rest =>
    let group (n : Nat) (rest : List Char) : List Piece :=
      ⟨acc.reverse, some n, casing, first⟩ :: pieces fuel casing .plain [] rest
    let change (casing' first' : Casing) (rest : List Char) : List Piece :=
      ⟨acc.reverse, none, casing, first⟩ :: pieces fuel casing' first' [] rest
    match c, rest with
    | '&', rest => group 0 rest
    | '\x5c', [] => pieces fuel casing first ('\x5c' :: acc) []
    | '\x5c', d :: rest =>
      match d with
      | 'L' => change .lower .plain rest
      | 'U' => change .upper .plain rest
      | 'E' => change .plain .plain rest
      | 'l' => change casing .lower rest
      | 'u' => change casing .upper rest
      | d =>
        if d.isDigit then group (d.toNat - 48) rest
        else pieces fuel casing first (d :: acc) rest
    | c, rest => pieces fuel casing first (c :: acc) rest

/-! ### Commands -/

def fileName : ReaderM (List Char) := do
  let _ ← takeWhile isBlank
  let name ← takeWhile (· != '\n')
  let _ ← take?
  if name.isEmpty then bad "missing filename in r/R/w/W commands" else return name

def outlet : ReaderM Outlet := do
  let name ← fileName
  if name == "/dev/stdout".toList then return .copy
  else if name == "/dev/stderr".toList then return .errors
  else return .file name

structure SubstituteOptions where
  everywhere : Bool
  number : Option Nat
  print : Bool
  ignoreCase : Bool
  multiline : Bool
  outlet : Option Outlet
deriving Inhabited

def substituteOptions : Nat → SubstituteOptions → ReaderM SubstituteOptions
  | 0, o => return o
  | fuel + 1, o => do
    match ← take? with
    | none | some '\n' | some ';' => return o
    | some 'i' | some 'I' => substituteOptions fuel { o with ignoreCase := true }
    | some 'm' | some 'M' => substituteOptions fuel { o with multiline := true }
    | some 'p' =>
      if o.print then bad "multiple \x60p' options to \x60s' command"
      else substituteOptions fuel { o with print := true }
    | some 'g' =>
      if o.everywhere then bad "multiple \x60g' options to \x60s' command"
      else substituteOptions fuel { o with everywhere := true }
    | some 'w' => return { o with outlet := some (← outlet) }
    | some '#' =>
      giveBack (some '#')
      return o
    | some c =>
      if c == '\x7d' then
        giveBack (some c)
        return o
      else if c.isDigit then
        if o.number.isSome then bad "multiple number options to \x60s' command"
        else
          giveBack (some c)
          let n ← number
          if n = 0 then bad "number option to \x60s' command may not be zero"
          else substituteOptions fuel { o with number := some n }
      else if isBlank c then substituteOptions fuel o
      else bad "unknown option to \x60s'"

def substitution : ReaderM Action := do
  let fault : String := "unterminated \x60s' command"
  match ← take? with
  | none => bad fault
  | some mark =>
    match ← delimited mark true with
    | none => bad fault
    | some text =>
      match ← delimited mark false with
      | none => bad fault
      | some replacement =>
        let replacement ← unescaped .replacement replacement
        let parts := pieces (replacement.length + 1) .plain .plain [] replacement
        let highest := parts.foldl (fun n p => max n (p.group.getD 0)) 0
        let o ← substituteOptions ((← get).text.length + 1) ⟨false, none, false, false, false, none⟩
        let p ← pattern text o.ignoreCase o.multiline highest
        return .substitute ⟨p, parts, highest, o.everywhere, o.number.getD 1, o.print, o.outlet⟩

def tableChars : Nat → List Char → ReaderM (List Char)
  | 0, _ => return []
  | _ + 1, [] => return []
  | fuel + 1, '\x5c' :: c :: rest => do
    match c with
    | '\x5c' => return '\x5c' :: (← tableChars fuel rest)
    | 'n' => return '\n' :: (← tableChars fuel rest)
    | c => return '\x5c' :: c :: (← tableChars fuel rest)
  | fuel + 1, c :: rest => return c :: (← tableChars fuel rest)

def translation : ReaderM Action := do
  let fault : String := "unterminated \x60y' command"
  match ← take? with
  | none => bad fault
  | some mark =>
    match ← delimited mark false with
    | none => bad fault
    | some from' =>
      match ← delimited mark false with
      | none => bad fault
      | some to' =>
        let from' ← unescaped .plain from'
        let to' ← unescaped .plain to'
        let from' ← tableChars (from'.length + 1) from'
        let to' ← tableChars (to'.length + 1) to'
        if from'.length != to'.length then bad "strings for \x60y' command are different lengths"
        else
          endOfCommand
          return .translate (from'.zip to').reverse

/-- Removes the backslashes of a text to be written. -/
def plainText : List Char → List Char
  | [] => []
  | ['\x5c'] => []
  | '\x5c' :: c :: rest => c :: plainText rest
  | c :: rest => c :: plainText rest

/-- The text of a command, up to the end of a line that has no backslash before it. The second part
tells that the script ended in a backslash, or before the text. -/
def rawText : Nat → List Char → ReaderM (List Char × Bool)
  | 0, acc => return (acc.reverse, false)
  | fuel + 1, acc => do
    match ← take? with
    | none | some '\n' => return (acc.reverse, false)
    | some '\x5c' =>
      match ← take? with
      | none => return (acc.reverse, true)
      | some c => rawText fuel (c :: '\x5c' :: acc)
    | some c => rawText fuel (c :: acc)

def finishedText (raw : List Char) : ReaderM (List Char) := do
  return plainText (← unescaped .replacement raw) ++ ['\n']

def commandText : ReaderM (List Char) := do
  let go : ReaderM (List Char) := do
    let (raw, open') ← rawText ((← get).text.length + 1) []
    if open' then
      modify fun r => { r with pending := some raw }
      finishedText raw
    else finishedText raw
  match ← takeNonblank? with
  | none => bad "expected \\ after \x60a', \x60c' or \x60i'"
  | some '\x5c' =>
    match ← take? with
    | none =>
      modify fun r => { r with pending := some [] }
      return []
    | some '\n' => go
    | c =>
      giveBack c
      go
  | c =>
    giveBack c
    go

def label : ReaderM (List Char) := do
  let _ ← takeWhile isBlank
  takeWhile fun c => !isSpace c && c != ';' && c != '\x7d'

def jump (kind : JumpKind) : ReaderM Action := do
  let name ← label
  modify fun r => { r with jumps := (r.edits.length, name) :: r.jumps }
  endOfCommand
  return .jump kind 0

def optionalNumber : ReaderM (Option Nat) := do
  match ← takeNonblank? with
  | some c =>
    giveBack (some c)
    if c.isDigit then
      let n ← number
      endOfCommand
      return some n
    else
      endOfCommand
      return none
  | none => return none

def simple (action : Action) : ReaderM Action := do
  endOfCommand
  return action

/-- Reads a command that starts with a character. None for comments. -/
def action (first second : Option Address) (c : Char) : ReaderM (Option Action) := do
  let r ← get
  match c with
  | '\x7b' =>
    set { r with blocks := (r.edits.length, r.script) :: r.blocks }
    return some (.block 0)
  | '\x7d' =>
    match r.blocks with
    | [] => bad "unexpected \x60\x7d'"
    | (start, _) :: blocks =>
      if first.isSome then bad "\x60\x7d' doesn't want any addresses"
      else
        endOfCommand
        let stop := r.edits.length
        modify fun r =>
          { r with
            blocks
            edits := r.edits.zipIdx.map fun (e, i) =>
              if stop - 1 - i == start then { e with action := .block stop } else e }
        return some .nothing
  | 'a' => return some (.append (← commandText))
  | 'i' => return some (.insert (← commandText))
  | 'c' => return some (.change (← commandText))
  | ':' =>
    if first.isSome then bad ": doesn't want any addresses"
    else
      let name ← label
      if name.isEmpty then bad "\":\" lacks a label"
      else
        modify fun r => { r with labels := (name, r.edits.length) :: r.labels }
        return some .nothing
  | 'b' => some <$> jump .always
  | 't' => some <$> jump .ifReplaced
  | 'T' => some <$> jump .unlessReplaced
  | 'q' | 'Q' =>
    if second.isSome then bad "command only uses one address"
    else return some (.quit (c == 'Q') ((← optionalNumber).getD 0))
  | 'l' => return some (.show (← optionalNumber))
  | '=' => some <$> simple .number
  | 'd' => some <$> simple .delete
  | 'D' => some <$> simple .deleteFirst
  | 'F' => some <$> simple .fileName
  | 'g' => some <$> simple .get
  | 'G' => some <$> simple .getMore
  | 'h' => some <$> simple .hold
  | 'H' => some <$> simple .holdMore
  | 'n' => some <$> simple .next
  | 'N' => some <$> simple .nextMore
  | 'p' => some <$> simple .print
  | 'P' => some <$> simple .printFirst
  | 'x' => some <$> simple .exchange
  | 'z' => some <$> simple .zap
  | 'r' => return some (.readFile (← fileName))
  | 'R' => return some (.readLine (← fileName))
  | 'w' => return some (.write (← outlet))
  | 'W' => return some (.writeFirst (← outlet))
  | 's' => some <$> substitution
  | 'y' => some <$> translation
  | 'v' =>
    let _ ← label
    return none
  | '#' =>
    if first.isSome then bad "comments don't accept any addresses"
    else
      let comment ← takeWhile (· != '\n')
      if comment.head? == some 'n' && r.script = 1 && r.taken = 1 then
        modify fun r => { r with quiet := true }
      return none
  | c => bad ("unknown command: \x60" ++ String.ofList [c] ++ "'")

def edit (c : Char) : ReaderM Unit := do
  let first ← address? (some c)
  let mut next := some c
  let mut second : Option Address := none
  match first with
  | none => pure ()
  | some a =>
    match a with
    | .plus _ | .multiple _ => bad "invalid usage of +N or ~N as first address"
    | _ => pure ()
    next ← takeNonblank?
    if next == some ',' then
      match ← address? (← takeNonblank?) with
      | none => bad "unexpected \x60,'"
      | some b =>
        second := some b
        next ← takeNonblank?
    match a, second with
    | .line 0, some (.pattern _) => pure ()
    | .line 0, none => if next == some 'r' then pure () else bad "invalid usage of line address 0"
    | .line 0, _ => bad "invalid usage of line address 0"
    | _, _ => pure ()
  let mut inverted := false
  if next == some '!' then
    inverted := true
    next ← takeNonblank?
    if next == some '!' then bad "multiple \x60!'s"
  match next with
  | none => bad "missing command"
  | some c =>
    match ← action first second c with
    | none => pure ()
    | some action => modify fun r => { r with edits := ⟨first, second, inverted, action⟩ :: r.edits }

def edits : Nat → ReaderM Unit
  | 0 => pure ()
  | fuel + 1 => do
    let _ ← takeWhile fun c => isSpace c || c == ';'
    match ← take? with
    | none => pure ()
    | some c =>
      edit c
      edits fuel

def withText (text : List Char) : List Edit → List Edit
  | [] => []
  | e :: rest =>
    let action := match e.action with
      | .append _ => .append text
      | .insert _ => .insert text
      | .change _ => .change text
      | a => a
    { e with action } :: rest

/-- Reads one more script. The text of a command may go on from the one before. -/
def script (text : List Char) : ReaderM Unit := do
  modify fun r => { r with text, taken := 0, script := r.script + 1 }
  match (← get).pending with
  | none => pure ()
  | some start =>
    modify fun r => { r with pending := none }
    let before := if start.isEmpty then [] else start ++ ['\x5c', '\n']
    let (raw, open') ← rawText (text.length + 1) before.reverse
    if open' then modify fun r => { r with pending := some raw }
    let finished ← finishedText raw
    modify fun r => { r with edits := withText finished r.edits }
  edits ((← get).text.length + 1)

def Reader.resolve (r : Reader) : Except ScriptFault (Array Edit) :=
  match r.blocks with
  | (_, script) :: _ => .error (.at script 0 "unmatched \x60\x7b'")
  | [] =>
    let edits := r.edits.reverse.toArray
    r.jumps.foldl
      (fun found (at', name) =>
        match found with
        | .error e => .error e
        | .ok edits =>
          let target? := if name.isEmpty then some edits.size else r.labels.lookup name
          match target? with
          | none => .error (.plain ("can't find label for jump to \x60".toList ++ name ++ ['\x27']))
          | some target =>
            .ok (edits.modify at' fun e =>
              match e.action with
              | .jump kind _ => { e with action := .jump kind target }
              | _ => e))
      (.ok edits)

def readScripts (extended : Bool) (scripts : List (List Char)) : Except ScriptFault (Array Edit × Bool) :=
  let start : Reader := ⟨[], 0, 0, extended, false, [], [], [], [], none⟩
  match (scripts.forM script).run start with
  | .error e => .error e
  | .ok ((), r) =>
    match r.resolve with
    | .error e => .error e
    | .ok edits => .ok (edits, r.quiet)

end PartyBridge.Tool.Sed
