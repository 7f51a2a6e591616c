import PartyBridge.Shell.Input

/-!
# Words and tokens

`scanWord` reads a word with its quoting, and `readToken` reads the tokens of the shell language. A
command inside a word is read by a function that is given to both. Recursion is bounded by an
allowance that grows with the length of the text.
-/

namespace PartyBridge.Shell

inductive Token where
  | eof
  | newline
  | semicolon
  | background
  | and
  | or
  | pipe
  | leftParen
  | rightParen
  | endArm
  | redirect
  | word
  | bang
  | «case»
  | «do»
  | done
  | elif
  | «else»
  | esac
  | fi
  | «for»
  | «if»
  | «in»
  | «then»
  | until
  | «while»
  | leftBrace
  | rightBrace
deriving Repr, DecidableEq, Inhabited

namespace Token

def text : Token → String
  | .eof => "end of file"
  | .newline => "newline"
  | .semicolon => "\";\""
  | .background => "\"&\""
  | .and => "\"&&\""
  | .or => "\"||\""
  | .pipe => "\"|\""
  | .leftParen => "\"(\""
  | .rightParen => "\")\""
  | .endArm => "\";;\""
  | .redirect => "redirection"
  | .word => "word"
  | .bang => "\"!\""
  | .case => "\"case\""
  | .do => "\"do\""
  | .done => "\"done\""
  | .elif => "\"elif\""
  | .else => "\"else\""
  | .esac => "\"esac\""
  | .fi => "\"fi\""
  | .for => "\"for\""
  | .if => "\"if\""
  | .in => "\"in\""
  | .then => "\"then\""
  | .until => "\"until\""
  | .while => "\"while\""
  | .leftBrace => "\"\x7b\""
  | .rightBrace => "\"\x7d\""

def keyword? (text : List Char) : Option Token :=
  match String.ofList text with
  | "!" => some .bang
  | "case" => some .case
  | "do" => some .do
  | "done" => some .done
  | "elif" => some .elif
  | "else" => some .else
  | "esac" => some .esac
  | "fi" => some .fi
  | "for" => some .for
  | "if" => some .if
  | "in" => some .in
  | "then" => some .then
  | "until" => some .until
  | "while" => some .while
  | "\x7b" => some .leftBrace
  | "\x7d" => some .rightBrace
  | _ => none

def endsList : Token → Bool
  | .eof | .rightParen | .endArm | .do | .done | .elif | .else | .esac | .fi | .then | .rightBrace => true
  | _ => false

end Token

/-! ### Kinds of characters -/

inductive Quoting where
  | plain
  | double
  | single
  | arith
deriving Repr, DecidableEq, Inhabited

inductive CharKind where
  | newline
  | word
  /-- It stands for itself only. -/
  | literal
  | backslash
  | openSingle
  | openDouble
  | closeQuote
  | dollar
  | rightBrace
  | leftParen
  | rightParen
  | backquote
  /-- It ends a word. -/
  | delimiter
deriving Repr, DecidableEq

/-- Bytes that stand for themselves everywhere. -/
def isReserved (c : Char) : Bool :=
  129 ≤ c.toNat && c.toNat ≤ 136

/-- Characters with a meaning in patterns or before names, which quotation takes away. -/
def isActiveChar (c : Char) : Bool :=
  "!*?[=~:/-]".toList.contains c

def charKind (quoting : Quoting) (c : Char) : CharKind :=
  if c == '\n' then .newline
  else if isReserved c then .literal
  else
    match quoting with
    | .plain =>
      match c with
      | '\x5c' => .backslash
      | '\'' => .openSingle
      | '"' => .openDouble
      | '\x60' => .backquote
      | '$' => .dollar
      | '\x7d' => .rightBrace
      | '<' | '>' | '(' | ')' | ';' | '&' | '|' | ' ' | '\t' => .delimiter
      | _ => .word
    | .double =>
      match c with
      | '\x5c' => .backslash
      | '"' => .closeQuote
      | '\x60' => .backquote
      | '$' => .dollar
      | '\x7d' => .rightBrace
      | c => if isActiveChar c then .literal else .word
    | .single =>
      match c with
      | '\'' => .closeQuote
      | c => if c == '\x5c' || isActiveChar c then .literal else .word
    | .arith =>
      match c with
      | '\x5c' => .backslash
      | '\x60' => .backquote
      | '$' => .dollar
      | '\x7d' => .rightBrace
      | '(' => .leftParen
      | ')' => .rightParen
      | _ => .word

/-! ### Parameters -/

structure ParamStart where
  name : List Char
  use : ParamUse
  colon : Bool
  input : Input
deriving Repr, Inhabited

namespace ParamStart

def isWhole (p : ParamStart) : Bool :=
  p.use == .plain && !p.colon

def isTrim (p : ParamStart) : Bool :=
  match p.use with
  | .trimStart _ | .trimEnd _ => true
  | _ => false

end ParamStart

/-- Characters of a name, joined lines included. -/
def takeName (accepts : Char → Bool) : Nat → List Char → Input → List Char × Input
  | 0, taken, inp => (taken.reverse, inp)
  | fuel + 1, taken, inp =>
    match inp.nextJoined with
    | some (c, rest) => if accepts c then takeName accepts fuel (c :: taken) rest else (taken.reverse, inp)
    | none => (taken.reverse, inp)

def paramUse (name : List Char) (inp : Input) : ParamStart :=
  let operator (colon : Bool) (inp : Input) : ParamStart :=
    match inp.nextJoined with
    | some (c, rest) =>
      match c with
      | '\x7d' => ⟨name, .plain, colon, rest⟩
      | '-' => ⟨name, .orDefault, colon, rest⟩
      | '+' => ⟨name, .ifSet, colon, rest⟩
      | '?' => ⟨name, .orFail, colon, rest⟩
      | '=' => ⟨name, .orAssign, colon, rest⟩
      | _ => ⟨name, .unknown, colon, rest⟩
    | none => ⟨name, .unknown, colon, inp⟩
  let doubled (c : Char) (rest : Input) : Bool × Input :=
    match rest.nextJoined with
    | some (d, further) => if d == c then (true, further) else (false, rest)
    | none => (false, rest)
  match inp.nextJoined with
  | some (':', rest) => operator true rest
  | some ('%', rest) =>
    let (longest, rest) := doubled '%' rest
    ⟨name, .trimEnd longest, false, rest⟩
  | some ('#', rest) =>
    let (longest, rest) := doubled '#' rest
    ⟨name, .trimStart longest, false, rest⟩
  | _ => operator false inp

/-- The length of a parameter whose name has been read; something else than a brace behind it is not
known. -/
def paramLength (name : List Char) (inp : Input) : ParamStart :=
  match inp.nextJoined with
  | some ('\x7d', _) => ⟨name, .length, false, inp⟩
  | _ => ⟨name, .unknown, false, inp⟩

def bracedParam (fuel : Nat) (inp : Input) : ParamStart :=
  let named (inp : Input) : Option (List Char × Input) :=
    match inp.nextJoined with
    | some (c, _) =>
      if isNameStart c then some (takeName isNameChar fuel [] inp)
      else if c.isDigit then some (takeName Char.isDigit fuel [] inp)
      else none
    | none => none
  match named inp with
  | some (name, rest) => paramUse name rest
  | none =>
    match inp.nextJoined with
    | none => ⟨[], .unknown, false, inp⟩
    | some ('\x7d', _) => ⟨[], .unknown, false, inp⟩
    | some ('#', rest) =>
      match named rest with
      | some (name, rest) => paramLength name rest
      | none =>
        match rest.nextJoined with
        | some (c, further) =>
          if c != '\x7d' && (further.nextJoined.map Prod.fst) == some '\x7d' then
            if isSpecial c then ⟨[c], .length, false, further⟩ else ⟨[], .unknown, false, further⟩
          else paramUse ['#'] rest
        | none => paramUse ['#'] rest
    | some (c, rest) => if isSpecial c then paramUse [c] rest else ⟨[], .unknown, false, rest⟩

/-- A parameter behind a dollar sign; none if the sign stands for itself. -/
def paramAt (fuel : Nat) (inp : Input) : Option ParamStart :=
  match inp.nextJoined with
  | some (c, rest) =>
    if c == '\x7b' then some (bracedParam fuel rest)
    else if isNameStart c then
      let (name, rest) := takeName isNameChar fuel [] inp
      some ⟨name, .plain, false, rest⟩
    else if isSpecial c then some ⟨[c], .plain, false, rest⟩
    else none
  | none => none

/-! ### Words -/

/-- How characters are read inside braces or brackets: whether quotation marks are open around, and
inside; how many braces are open, and how many of them in quotation marks; whether a brace has opened
the level; and how many brackets are open. -/
structure Level where
  quoting : Quoting
  double : Bool
  inner : Bool
  depth : Nat
  doubleDepth : Nat
  pushed : Bool
  parens : Nat
deriving Repr, DecidableEq, Inhabited

inductive Opened where
  | param (name : List Char) (use : ParamUse) (colon : Bool)
  | arith
deriving Repr, Inhabited

structure WordScan where
  parts : List Part
  opened : List (Opened × List Part)
  level : Level
  outer : List Level
  quoted : Bool
deriving Inhabited

namespace WordScan

def start (quoting : Quoting) : WordScan :=
  ⟨[], [], ⟨quoting, quoting == .double, false, 0, 0, false, 0⟩, [], false⟩

def add (w : WordScan) (part : Part) : WordScan :=
  { w with parts := part :: w.parts }

def «open» (w : WordScan) (opened : Opened) : WordScan :=
  { w with parts := [], opened := (opened, w.parts) :: w.opened }

def close (w : WordScan) : WordScan :=
  match w.opened with
  | [] => w
  | (.param name use colon, before) :: opened =>
    { w with parts := .param name use colon w.parts.reverse :: before, opened }
  | (.arith, before) :: opened => { w with parts := .arith w.parts.reverse :: before, opened }

def push (w : WordScan) (level : Level) : WordScan :=
  { w with level, outer := w.level :: w.outer }

def pop (w : WordScan) : WordScan :=
  match w.outer with
  | level :: outer => { w with level, outer }
  | [] => w

/-- A quotation starts or ends; in a here-document its marks are plain. -/
def quote (w : WordScan) (document double : Bool) : WordScan :=
  let w := if double && 0 < w.level.depth then { w with level.inner := !w.level.inner } else w
  if document then w else w.add .mark

def closeQuote (w : WordScan) (document : Bool) (c : Char) : WordScan :=
  if document && w.level.depth = 0 then w.add (.char c)
  else
    let w := if w.level.doubleDepth = 0 then { w with level.quoting := .plain, level.double := false } else w
    { w with quoted := true }.quote document (c == '"')

def escape (w : WordScan) (document : Bool) (c : Char) : WordScan :=
  let kept := w.level.double && c != '\x5c' && c != '\x60' && c != '$' &&
    (c != '"' || (document && w.level.depth = 0)) && (c != '\x7d' || w.level.depth = 0)
  let w := if kept then w.add (.literal '\x5c') else w
  { w.add (.literal c) with quoted := true }

def rightBrace (w : WordScan) : WordScan :=
  if w.level.inner || w.level.depth = 0 then w.add (.char '\x7d')
  else
    let w := { w with level.depth := w.level.depth - 1 }
    let w :=
      if w.level.depth = 0 && w.level.pushed then w.pop
      else { w with level.doubleDepth := w.level.doubleDepth - 1 }
    w.close

def param (w : WordScan) (p : ParamStart) : WordScan :=
  if p.isWhole then w.add (.param p.name .plain false [])
  else
    let quoting := if p.isTrim then .plain else w.level.quoting
    let quoting := if quoting = .arith then .double else quoting
    let w :=
      if quoting != w.level.quoting || w.level.inner then
        w.push ⟨quoting, quoting != .plain, false, 0, 0, true, 0⟩
      else w
    let level :=
      { w.level with
        depth := w.level.depth + 1
        doubleDepth := if w.level.double then w.level.doubleDepth + 1 else w.level.doubleDepth }
    { w with level }.open (.param p.name p.use p.colon)

def openArith (w : WordScan) : WordScan :=
  (w.push ⟨.arith, true, false, 0, 0, false, 0⟩).open .arith

def fault? (w : WordScan) (document : Bool) : Option String :=
  if w.level.quoting = .arith then some "Missing '))'"
  else if w.level.quoting != .plain && !document then some "Unterminated quoted string"
  else if w.level.depth != 0 then some "Missing '\x7d'"
  else none

end WordScan

/-- The text of a substitution in backquotes, and the input behind it. In quotation marks a backslash
also quotes them. -/
def backquoted (double : Bool) : Nat → List Char → Input → Option (List Char × Input)
  | 0, _, _ => none
  | fuel + 1, taken, inp =>
    match inp.nextJoined with
    | none => none
    | some ('\x60', rest) => some (taken.reverse, rest)
    | some ('\x5c', rest) =>
      match rest.next with
      | none => none
      | some (c, further) =>
        let quotes := c == '\x5c' || c == '\x60' || c == '$' || (double && c == '"')
        backquoted double fuel (if quotes then c :: taken else c :: '\x5c' :: taken) further
    | some (c, rest) => backquoted double fuel (c :: taken) rest

structure Checks where
  newlines : Bool
  keywords : Bool
  aliases : Bool
  document : Bool
deriving Repr, DecidableEq, Inhabited

namespace Checks

def none : Checks :=
  ⟨false, false, false, false⟩

def command : Checks :=
  ⟨false, true, true, false⟩

def lines : Checks :=
  ⟨true, true, true, false⟩

end Checks

/-- A here-document that has been announced: its number, the line that ends it, whether tabs are taken
away, and whether its text is expanded. -/
structure Announced where
  number : Nat
  mark : List Char
  strip : Bool
  expands : Bool
deriving Repr, Inhabited

/-- The state of a reader: its input and the aliases, the last token with its word and its redirection,
whether the token is to be read again, what the next one is checked for, here-documents that have been
announced, those that have been read, and those that are known from an earlier reading. -/
structure Scan where
  input : Input
  aliases : List (List Char × List Char)
  token : Token
  back : Bool
  word : Word
  quoted : Bool
  fd : Nat
  kind : RedirectKind
  strip : Bool
  check : Checks
  announced : List Announced
  count : Nat
  documents : List (Nat × Word)
  known : List (Nat × Word)
deriving Inhabited

namespace Scan

def fault {α : Type} (sc : Scan) (text : String) : Except SyntaxFault α :=
  .error ⟨("Syntax error: " ++ text).toList, sc.input.line⟩

def unexpected {α : Type} (sc : Scan) : Except SyntaxFault α :=
  sc.fault (sc.token.text ++ " unexpected")

def expected {α : Type} (sc : Scan) (token : Token) : Except SyntaxFault α :=
  sc.fault (sc.token.text ++ " unexpected (expecting " ++ token.text ++ ")")

end Scan

/-- How the commands of a substitution are read: in backquotes up to the end of the text, or up to a
bracket. -/
abbrev Nested := (untilEnd : Bool) → Scan → Except SyntaxFault (Option Command × Scan)

/-- A text without the characters at its start, if it starts with them. -/
def Input.drop? : List Char → Input → Option Input
  | [], inp => some inp
  | c :: chars, inp =>
    match inp.next with
    | some (d, rest) => if c == d then Input.drop? chars rest else none
    | none => none

def Input.dropTabs : Nat → Input → Input
  | 0, inp => inp
  | fuel + 1, inp =>
    match inp.next with
    | some ('\t', rest) => Input.dropTabs fuel rest
    | _ => inp

/-- The text behind the line that ends a here-document. -/
def Input.pastMark? (mark : List Char) (inp : Input) : Option Input :=
  match inp.drop? mark with
  | none => none
  | some rest =>
    match rest.next with
    | some ('\n', further) => some further
    | none => some { rest with line := rest.line + 1 }
    | some _ => none

def Input.skipJoins : Nat → Input → Input
  | 0, inp => inp
  | fuel + 1, inp =>
    match inp.drop? ['\x5c', '\n'] with
    | some rest => Input.skipJoins fuel rest
    | none => inp

/-- Reads a word from the place where the reader is. `document` is the line that ends a here-document
and whether tabs are taken away; `fresh` tells that a line starts. -/
def scanWord (nested : Nested) (document : Option (List Char × Bool)) :
    Nat → (fresh : Bool) → WordScan → Scan → Except SyntaxFault (WordScan × Scan)
  | 0, _, _, sc => sc.fault "Unterminated quoted string"
  | fuel + 1, fresh, w, sc =>
    let inDocument := document.isSome
    let finish (sc : Scan) : Except SyntaxFault (WordScan × Scan) :=
      match w.fault? inDocument with
      | some text => sc.fault text
      | none => .ok (w, sc)
    let sc := match fresh, document with
      | true, some (_, true) => { sc with input := sc.input.dropTabs fuel }
      | _, _ => sc
    match if fresh then document.bind fun (mark, _) => sc.input.pastMark? mark else none with
    | some rest => finish { sc with input := rest }
    | none =>
      match sc.input.next with
      | none => finish sc
      | some (c, rest) =>
        let after := { sc with input := rest }
        match charKind w.level.quoting c with
        | .newline =>
          if w.level.quoting = .plain && w.level.depth = 0 then finish sc
          else scanWord nested document fuel true (w.add (.char c)) after
        | .word => scanWord nested document fuel false (w.add (.char c)) after
        | .literal =>
          let part := if inDocument && !w.level.double then Part.char c else .literal c
          scanWord nested document fuel false (w.add part) after
        | .backslash =>
          match rest.next with
          | none => scanWord nested document fuel false (w.add (.literal c)) after
          | some ('\n', further) => scanWord nested document fuel false w { sc with input := further }
          | some (d, further) =>
            scanWord nested document fuel false (w.escape inDocument d) { sc with input := further }
        | .openSingle =>
          let w := { w with level.quoting := .single }
          scanWord nested document fuel false (w.quote inDocument false) after
        | .openDouble =>
          let w := { w with level.quoting := .double, level.double := true }
          scanWord nested document fuel false (w.quote inDocument true) after
        | .closeQuote => scanWord nested document fuel false (w.closeQuote inDocument c) after
        | .rightBrace => scanWord nested document fuel false w.rightBrace after
        | .leftParen =>
          let w := { w with level.parens := w.level.parens + 1 }
          scanWord nested document fuel false (w.add (.char c)) after
        | .rightParen =>
          if 0 < w.level.parens then
            let w := { w with level.parens := w.level.parens - 1 }
            scanWord nested document fuel false (w.add (.char c)) after
          else
            match rest.nextJoined with
            | some (')', further) =>
              scanWord nested document fuel false w.pop.close { sc with input := further }
            | _ => scanWord nested document fuel false (w.add (.char c)) after
        | .backquote =>
          if sc.check.document then
            scanWord nested document fuel false { w.add (.char c) with quoted := true } after
          else
            match backquoted w.level.double fuel [] rest with
            | none =>
              let lines := rest.chars.foldl (fun n c => if c == '\n' then n + 1 else n) rest.line
              { sc with input.line := lines }.fault "EOF in backquote substitution"
            | some (text, further) =>
              match nested true { sc with input := .ofText text } with
              | .error f => .error f
              | .ok (body, inner) =>
                let sc := { inner with input := further, back := false }
                scanWord nested document fuel false (w.add (.command body)) sc
        | .dollar =>
          if sc.check.document then scanWord nested document fuel false (w.add (.char c)) after
          else
            match rest.nextJoined with
            | some ('(', further) =>
              match further.nextJoined with
              | some ('(', inner) =>
                scanWord nested document fuel false w.openArith { sc with input := inner }
              | _ =>
                match nested false { sc with input := further } with
                | .error f => .error f
                | .ok (body, sc) => scanWord nested document fuel false (w.add (.command body)) sc
            | _ =>
              match paramAt fuel rest with
              | some p => scanWord nested document fuel false (w.param p) { sc with input := p.input }
              | none => scanWord nested document fuel false (w.add (.char c)) after
        | .delimiter =>
          if w.level.depth = 0 then finish sc
          else scanWord nested document fuel false (w.add (.char c)) after

/-! ### Tokens -/

def redirectAt (sign : Char) (inp : Input) : RedirectKind × Bool × Input :=
  let next := inp.nextJoined
  if sign == '>' then
    match next with
    | some ('>', rest) => (.append, false, rest)
    | some ('|', rest) => (.clobber, false, rest)
    | some ('&', rest) => (.duplicate, false, rest)
    | _ => (.output, false, inp)
  else
    match next with
    | some ('<', rest) =>
      match rest.nextJoined with
      | some ('-', further) => (.here true, true, further)
      | _ => (.here true, false, rest)
    | some ('&', rest) => (.duplicate, false, rest)
    | some ('>', rest) => (.both, false, rest)
    | _ => (.input, false, inp)

def Input.skipComment : Nat → Input → Input
  | 0, inp => inp
  | fuel + 1, inp =>
    match inp.next with
    | none => inp
    | some (c, rest) => if c == '\n' then inp else Input.skipComment fuel rest

namespace Scan

def found (sc : Scan) (token : Token) (input : Input) : Except SyntaxFault Scan :=
  .ok { sc with token, input }

def readRaw (nested : Nested) : Nat → Scan → Except SyntaxFault Scan
  | 0, sc => sc.fault "out of text"
  | fuel + 1, sc =>
    if sc.back then .ok { sc with back := false }
    else
      let pair (c : Char) (rest : Input) (double single : Token) : Except SyntaxFault Scan :=
        match rest.nextJoined with
        | some (d, further) => if d == c then sc.found double further else sc.found single rest
        | none => sc.found single rest
      match sc.input.nextJoined with
      | none => sc.found .eof { sc.input with chars := [], behind := [] }
      | some (c, rest) =>
        match c with
        | ' ' | '\t' => readRaw nested fuel { sc with input := rest }
        | '#' => readRaw nested fuel { sc with input := rest.skipComment fuel }
        | '\n' => sc.found .newline rest
        | '&' => pair c rest .and .background
        | '|' => pair c rest .or .pipe
        | ';' => pair c rest .endArm .semicolon
        | '(' => sc.found .leftParen rest
        | ')' => sc.found .rightParen rest
        | _ =>
          match scanWord nested none fuel false (.start .plain) { sc with input := sc.input.skipJoins fuel } with
          | .error f => .error f
          | .ok (w, sc) =>
            let sign? := match sc.input.next with
              | some ('<', rest) => some ('<', rest)
              | some ('>', rest) => some ('>', rest)
              | _ => none
            let digit? := match w.parts with
              | [] => some none
              | [.char d] => if d.isDigit then some (some (d.toNat - 48)) else none
              | _ => none
            match sign?, digit?, w.quoted with
            | some (sign, rest), some digit, false =>
              let (kind, strip, input) := redirectAt sign rest
              let fd := digit.getD (if sign == '>' then 1 else 0)
              .ok { sc with token := .redirect, fd, kind, strip, input }
            | _, _, _ => .ok { sc with token := .word, word := w.parts.reverse, quoted := w.quoted }

def readDocument (nested : Nested) (fuel : Nat) (sc : Scan) (doc : Announced) :
    Except SyntaxFault Scan :=
  let input := if doc.expands then sc.input.skipJoins fuel else sc.input
  let quoting := if doc.expands then .double else .single
  match scanWord nested (some (doc.mark, doc.strip)) fuel true (.start quoting) { sc with input } with
  | .error f => .error f
  | .ok (w, sc) =>
    let word := w.parts.reverse
    .ok { sc with word, quoted := w.quoted, token := .word, documents := (doc.number, word) :: sc.documents }

def readDocuments (nested : Nested) (fuel : Nat) (sc : Scan) : Except SyntaxFault Scan :=
  sc.announced.foldlM (readDocument nested fuel) { sc with announced := [] }

/-- Skips newlines; the here-documents behind each are read. -/
def skipNewlines (nested : Nested) : Nat → Scan → Except SyntaxFault Scan
  | 0, sc => .ok sc
  | fuel + 1, sc =>
    if sc.token != .newline then .ok sc
    else do
      let sc ← readDocuments nested fuel sc
      skipNewlines nested fuel (← readRaw nested fuel { sc with check := .none })

def readToken (nested : Nested) : Nat → Scan → Except SyntaxFault Scan
  | 0, sc => sc.fault "out of text"
  | fuel + 1, sc => do
    let check := sc.check
    let sc ← readRaw nested fuel sc
    let sc ← if check.newlines then skipNewlines nested fuel sc else pure sc
    let again := sc.input.again
    let sc := { sc with check := .none, input.again := false }
    match sc.token, sc.quoted, Word.plain? sc.word with
    | .word, false, some text =>
      match if check.keywords then Token.keyword? text else none with
      | some token => return { sc with token }
      | none =>
        match if check.aliases || again then sc.aliases.lookup text else none with
        | some value =>
          if sc.input.reads text then return sc
          else
            let input := if value.isEmpty then sc.input else sc.input.push text value
            readToken nested fuel { sc with input, check }
        | none => return sc
    | _, _, _ => return sc

end Scan

end PartyBridge.Shell
