import PartyBridge.Shell.Scan

/-!
# Commands and lists of commands

`readCommands` reads the commands of one line, and as many further lines as they need. A text with
here-documents is read twice: the first reading finds the documents, the second one puts them into the
commands that announce them.
-/

namespace PartyBridge.Shell

abbrev Reader := StateT Scan (Except SyntaxFault)

namespace Reader

def check (checks : Checks) : Reader Unit :=
  modify fun sc => { sc with check := checks }

def back : Reader Unit :=
  modify fun sc => { sc with back := true }

def token (nested : Nested) (fuel : Nat) : Reader Token := do
  let sc ← Scan.readToken nested fuel (← get)
  set sc
  return sc.token

def unexpected {α : Type} : Reader α := do
  (← get).unexpected

def expected {α : Type} (token : Token) : Reader α := do
  (← get).expected token

def fault {α : Type} (text : String) : Reader α := do
  (← get).fault text

def expect (nested : Nested) (fuel : Nat) (wanted : Token) : Reader Unit := do
  if (← token nested fuel) != wanted then expected wanted

def documents (nested : Nested) (fuel : Nat) : Reader Unit := do
  set (← Scan.readDocuments nested fuel (← get))

def redirect (nested : Nested) (fuel : Nat) : Reader Redirect := do
  let sc ← get
  let fd := sc.fd
  match sc.kind with
  | .here _ =>
    let strip := sc.strip
    check { Checks.none with document := true }
    if (← token nested fuel) != .word then unexpected
    let sc ← get
    let expands := !sc.quoted
    let doc : Announced := ⟨sc.count, Word.unquoted sc.word, strip, expands⟩
    set { sc with announced := sc.announced ++ [doc], count := sc.count + 1 }
    return ⟨fd, .here expands, (sc.known.lookup doc.number).getD []⟩
  | kind =>
    if (← token nested fuel) != .word then unexpected
    return ⟨fd, kind, (← get).word⟩

end Reader

open Reader

def readWords (nested : Nested) : Nat → List Word → Reader (List Word)
  | 0, words => return words.reverse
  | fuel + 1, words => do
    if (← token nested fuel) == .word then readWords nested fuel ((← get).word :: words)
    else return words.reverse

/-- Redirections up to something else, which is read again. -/
def readRedirects (nested : Nested) : Nat → List Redirect → Reader (List Redirect)
  | 0, redirects => return redirects.reverse
  | fuel + 1, redirects => do
    if (← token nested fuel) == .redirect then
      readRedirects nested fuel ((← redirect nested fuel) :: redirects)
    else
      back
      return redirects.reverse

/-- The patterns of an arm. A word that is missing is the one before. -/
def readPatterns (nested : Nested) : Nat → List Word → Reader (List Word)
  | 0, patterns => return patterns.reverse
  | fuel + 1, patterns => do
    let patterns := (← get).word :: patterns
    if (← token nested fuel) == .pipe then
      let _ ← token nested fuel
      readPatterns nested fuel patterns
    else return patterns.reverse

/-- Whether a word starts like an assignment. -/
def Word.isAssignment (word : Word) : Bool :=
  let text := Word.leading word
  let name := leadingName text
  !name.isEmpty && (text.drop name.length).head? == some '='

/-- All parameters, each as one word. -/
def allParams : Word :=
  [.mark, .param ['@'] .plain false [], .mark]

/-- How far a list of commands goes: to the end of the line, to a token that ends it behind at least
one command, or to such a token. -/
inductive ListKind where
  | line
  | body
  | optional
deriving Repr, DecidableEq

structure SimpleParts where
  assigns : List Word
  words : List Word
  redirects : List Redirect
deriving Inhabited

mutual

def readList : Nat → ListKind → Option Command → Reader (Option Command)
  | 0, _, _ => Reader.fault "out of text"
  | fuel + 1, kind, first => do
    let nested := readNested fuel
    check (if kind = .line then .command else .lines)
    match ← token nested fuel with
    | .newline =>
      documents nested fuel
      return first
    | .eof =>
      documents nested fuel
      modify fun sc => { sc with back := true, token := .eof }
      return first
    | t =>
      back
      if t.endsList && (kind = .optional || (kind = .body && first.isSome)) then return first
      let command ← readAndOr fuel none
      let separator ← token nested fuel
      let command := match separator, command with
        | .background, .pipe _ commands => .pipe true commands
        | .background, .redirected line body redirects => .background line body redirects
        | .background, command => .background 0 (some command) []
        | _, command => command
      let all := match first with
        | none => command
        | some first => .seq first command
      match separator with
      | .eof =>
        documents nested fuel
        modify fun sc => { sc with back := true, token := .eof }
        return some all
      | .newline =>
        back
        readList fuel kind (some all)
      | .background | .semicolon => readList fuel kind (some all)
      | _ =>
        if kind = .line then unexpected
        back
        return some all

def readAndOr : Nat → Option Command → Reader Command
  | 0, _ => Reader.fault "out of text"
  | fuel + 1, first => do
    let nested := readNested fuel
    let first ← match first with
      | some command => pure command
      | none => readPipeline fuel
    match ← token nested fuel with
    | .and =>
      check .lines
      readAndOr fuel (some (.both first (← readPipeline fuel)))
    | .or =>
      check .lines
      readAndOr fuel (some (.either first (← readPipeline fuel)))
    | _ =>
      back
      return first

def readPipeline : Nat → Reader Command
  | 0 => Reader.fault "out of text"
  | fuel + 1 => do
    let nested := readNested fuel
    let negated := (← token nested fuel) == .bang
    if negated then check .command else back
    let first ← readCommand fuel
    let piped := (← token nested fuel) == .pipe
    let command ← if piped then pure (.pipe false (first :: (← readPiped fuel))) else pure first
    back
    return if negated then .negate command else command

def readPiped : Nat → Reader (List Command)
  | 0 => Reader.fault "out of text"
  | fuel + 1 => do
    check .lines
    let command ← readCommand fuel
    if (← token (readNested fuel) fuel) == .pipe then return command :: (← readPiped fuel)
    else return [command]

def readCommand : Nat → Reader Command
  | 0 => Reader.fault "out of text"
  | fuel + 1 => do
    let nested := readNested fuel
    let line := (← get).input.line
    let close (token : Token) (command : Option Command) : Reader (Option Command) := do
      expect nested fuel token
      return command
    let start ← token nested fuel
    if start == .word || start == .redirect then
      back
      let line := (← get).input.line
      return ← readSimple fuel line true ⟨[], [], []⟩
    let command ← match start with
      | .if => close .fi (some (← readBranch fuel))
      | .while | .until => do
        let condition ← readList fuel .body none
        expect nested fuel .do
        let body ← readList fuel .body none
        close .done (some (.loop (start == .until) condition body))
      | .for => do
        let t ← token nested fuel
        let sc ← get
        let name := (Word.plain? sc.word).getD []
        if t != .word || sc.quoted || !isName name then Reader.fault "Bad for loop variable"
        check .lines
        let words ← match ← token nested fuel with
          | .in => do
            let words ← readWords nested fuel []
            let last := (← get).token
            if last != .newline && last != .semicolon then unexpected
            pure words
          | t => do
            if t != .semicolon then back
            pure [allParams]
        check .lines
        expect nested fuel .do
        let body ← readList fuel .body none
        close .done (some (.each line name words body))
      | .case => do
        expect nested fuel .word
        let subject := (← get).word
        check .lines
        expect nested fuel .in
        pure (some (.select line subject (← readArms fuel)))
      | .leftParen => close .rightParen (some (.subshell line (← readList fuel .body none) []))
      | .leftBrace => close .rightBrace (← readList fuel .body none)
      | _ => unexpected
    check .command
    let redirects ← readRedirects nested fuel []
    match command, redirects with
    | some command, [] => return command
    | none, [] => return .redirected line none []
    | some (.subshell line body _), redirects => return .subshell line body redirects
    | command, redirects => return .redirected line command redirects

def readBranch : Nat → Reader Command
  | 0 => Reader.fault "out of text"
  | fuel + 1 => do
    let nested := readNested fuel
    let condition ← readList fuel .body none
    expect nested fuel .then
    let body ← readList fuel .body none
    match ← token nested fuel with
    | .elif => return .branch condition body (some (← readBranch fuel))
    | .else => return .branch condition body (← readList fuel .body none)
    | _ =>
      back
      return .branch condition body none

def readArms : Nat → Reader (List (List Word × Option Command))
  | 0 => Reader.fault "out of text"
  | fuel + 1 => do
    let nested := readNested fuel
    check { Checks.none with newlines := true, keywords := true }
    let t ← token nested fuel
    if t == .esac then return []
    if t == .leftParen then
      let _ ← token nested fuel
    let patterns ← readPatterns nested fuel []
    if (← get).token != .rightParen then expected .rightParen
    let body ← readList fuel .optional none
    check { Checks.none with newlines := true, keywords := true }
    match ← token nested fuel with
    | .esac => return [(patterns, body)]
    | .endArm => return (patterns, body) :: (← readArms fuel)
    | _ => expected .endArm

/-- A simple command or the definition of a function. `early` tells that only assignments have been
read. -/
def readSimple : Nat → Nat → (early : Bool) → SimpleParts → Reader Command
  | 0, _, _, _ => Reader.fault "out of text"
  | fuel + 1, line, early, parts => do
    let nested := readNested fuel
    check { Checks.none with aliases := early }
    match ← token nested fuel with
    | .word =>
      let word := (← get).word
      if early && Word.isAssignment word then
        readSimple fuel line true { parts with assigns := word :: parts.assigns }
      else readSimple fuel line false { parts with words := word :: parts.words }
    | .redirect =>
      let r ← redirect nested fuel
      readSimple fuel line early { parts with redirects := r :: parts.redirects }
    | t =>
      match t, parts with
      | .leftParen, ⟨[], [word], []⟩ =>
        expect nested fuel .rightParen
        let name := (Word.plain? word).getD []
        if !isName name || isSpecialBuiltin name then Reader.fault "Bad function name"
        check .lines
        return .define name (some (← readCommand fuel))
      | _, _ =>
        back
        return .simple line parts.assigns.reverse parts.words.reverse parts.redirects.reverse

def readNested : Nat → Nested
  | 0, _, sc => sc.fault "out of text"
  | fuel + 1, untilEnd, sc => do
    let announced := sc.announced
    let inner := { sc with announced := [], check := Checks.none, back := false }
    let (body, inner) ← (readList fuel .optional none).run inner
    if untilEnd then return (body, { inner with announced })
    else
      let nested := readNested fuel
      let ((), inner) ← (expect nested fuel .rightParen).run inner
      let input := inner.input
      let ((), inner) ← (documents nested fuel).run { inner with input := .ofText [] }
      return (body, { inner with input, announced })

end

structure Line where
  command : Option Command
  rest : Input
deriving Inhabited

def Scan.start (aliases : List (List Char × List Char)) (known : List (Nat × Word)) (inp : Input) : Scan :=
  { input := inp, aliases, token := .newline, back := false, word := [], quoted := false, fd := 0
    kind := .input, strip := false, check := .none, announced := [], count := 0, documents := [], known }

/-- Reads a text in which only expansions have a meaning. -/
def readText (text : List Char) : Option Word :=
  let fuel := (text.length + 64) * 8
  match scanWord (readNested fuel) (some (['\x00'], false)) fuel false (.start .double)
      (.start [] [] (.ofText text)) with
  | .ok (w, _) => some w.parts.reverse
  | .error _ => none

/-- Reads the commands of one line with the here-documents that are known. Nothing at the end of the
text. -/
def readLine (aliases : List (List Char × List Char)) (known : List (Nat × Word)) (inp : Input) :
    Except SyntaxFault (Option Line × List (Nat × Word)) := do
  let extra := aliases.foldl (fun n (_, value) => n + value.length + 1) 1
  let fuel := (inp.size + 64) * 8 * extra
  let (command, sc) ← (readList fuel .line none).run (.start aliases known inp)
  let ended := sc.back && sc.token == .eof
  if command.isNone && ended then return (none, [])
  else return (some ⟨command, sc.input⟩, sc.documents)

def readCommands (aliases : List (List Char × List Char)) (inp : Input) :
    Except SyntaxFault (Option Line) := do
  match ← readLine aliases [] inp with
  | (line, []) => return line
  | (_, documents) => return (← readLine aliases documents inp).1

end PartyBridge.Shell
