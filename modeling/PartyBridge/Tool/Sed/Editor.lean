import PartyBridge.Tool.Sed.Script
import PartyBridge.Tool.Talk

/-!
# The stream editor at work

The editor reads a line, carries out the commands that are for it, writes it, and goes on to the next
one. It looks beyond a line only if a command asks whether it is the last one.
-/

namespace PartyBridge.Tool.Sed

open Shell (ofBytes toBytes)

structure Settings where
  quiet : Bool
  unbuffered : Bool
  /-- Each file has lines of its own. -/
  separate : Bool
  /-- Files are replaced by what is written for them; a copy may be kept under another name. -/
  inPlace : Option (List Char)
  /-- The character behind each line. -/
  delimiter : Char
  width : Nat
  /-- How many scripts were given. -/
  scripts : Nat
deriving Repr, Inhabited

inductive Appended where
  | text (text : List Char)
  | file (name : List Char)
  | line (name : List Char)
deriving Repr, Inhabited

structure LineSource where
  name : List Char
  fd : Option Nat
  buffer : List Char
deriving Repr, Inhabited

/-- Where in its lines a command with two addresses is. -/
inductive Range where
  | outside
  | inside (stop : Option Nat)
  /-- Behind a range that starts at a line of some number, which does not come again. -/
  | behind
deriving Repr, DecidableEq, Inhabited

inductive Fetch where
  | cycle
  | replace (pc : Nat)
  | more (pc : Nat)
deriving Repr, DecidableEq, Inhabited

inductive Onward where
  | fetch (why : Fetch)
  /-- Start with the commands again. -/
  | again
  | leave (code : Nat)
deriving Repr, DecidableEq, Inhabited

inductive Phase where
  | outlets (names : List (List Char))
  | outletOpened (name : List Char) (names : List (List Char))
  | fetch (why : Fetch)
  | fetched (why : Fetch)
  | fetchOpened (why : Fetch) (name : Bytes)
  /-- Find out whether the line is the last one, for a command that is for the line or may be. -/
  | look (pc : Nat) (chosen : Bool)
  | looked (pc : Nat) (chosen : Bool)
  | lookOpened (pc : Nat) (chosen : Bool) (name : Bytes)
  /-- Write what follows a line, then go on. -/
  | dump (onward : Onward)
  | dumpOpened (onward : Onward)
  | dumpFrom (onward : Onward) (fd : Nat)
  | dumpRead (onward : Onward) (fd : Nat)
  | lineOpened (onward : Onward) (name : List Char)
  | lineRead (onward : Onward) (name : List Char)
  | run (pc : Nat)
  /-- Carry out a command that is for the line. -/
  | carry (pc : Nat)
  | wrote (fd : Nat) (behind : Phase)
  | leave (code : Nat)
  | flushed (code : Nat)
  | gone (code : Nat)
  | broken (code : Nat)
deriving Inhabited

structure Editor where
  edits : Array Edit
  settings : Settings
  phase : Phase
  ranges : Array Range
  files : List (Option Bytes)
  /-- The file that is read, with its descriptor and name; what has been read of it; whether that is
  all. -/
  current : Option (Nat × Option Bytes)
  buffer : List Char
  ended : Bool
  number : Nat
  /-- The line, and whether a delimiter follows it. -/
  space : List Char
  delimited : Bool
  held : List Char
  heldDelimited : Bool
  replaced : Bool
  /-- The expression that was used last, and whether it was that of an address. -/
  lastPattern : Option (Matcher × Bool)
  atEnd : Option Bool
  /-- Whether the line has been written by a command that then asks for the next one. -/
  shown : Bool
  appended : List Appended
  sources : List LineSource
  outlets : List (List Char × Nat)
  /-- Where the last line was written without a delimiter. -/
  unfinished : List Outlet
  output : Bytes
  writes : List (Nat × Bytes)
  status : Nat
deriving Inhabited

namespace Editor

/-! ### Writing -/

def outletFd (e : Editor) : Outlet → Option Nat
  | .output | .copy => some 1
  | .errors => some 2
  | .file name => e.outlets.lookup name

/-- Writes a text. What goes to standard output is held back until a block is full. -/
def put (e : Editor) (o : Outlet) (text : List Char) : Editor :=
  if text.isEmpty then e
  else
    match o with
    | .output | .copy =>
      let held := e.output ++ toBytes text
      if e.settings.inPlace.isSome then { e with output := held }
      else if e.settings.unbuffered then { e with writes := e.writes ++ [(1, held)], output := [] }
      else if held.length < blockSize then { e with output := held }
      else
        let (now, later) := wholeBlocks held
        { e with writes := e.writes ++ [(1, now)], output := later }
    | o =>
      match e.outletFd o with
      | some fd => { e with writes := e.writes ++ [(fd, toBytes text)] }
      | none => e

/-- Ends a line that was written without a delimiter. -/
def finishLine (e : Editor) (o : Outlet) : Editor :=
  if e.unfinished.contains o then
    { e with unfinished := e.unfinished.filter (· != o) }.put o [e.settings.delimiter]
  else e

def putText (e : Editor) (o : Outlet) (text : List Char) : Editor :=
  (e.finishLine o).put o text

/-- Writes a text whose last newline is the end of a line. -/
def putEnded (e : Editor) (o : Outlet) (text : List Char) : Editor :=
  if text.isEmpty then e.finishLine o else e.putText o (text.dropLast ++ [e.settings.delimiter])

def putLine (e : Editor) (o : Outlet) (line : List Char) (delimited : Bool) : Editor :=
  let e := e.finishLine o
  if delimited then e.put o (line ++ [e.settings.delimiter])
  else { e.put o line with unfinished := o :: e.unfinished }

def putSpace (e : Editor) (o : Outlet) : Editor :=
  e.putLine o e.space e.delimited

def fail (e : Editor) (text : List Char) (code : Nat) : Editor × Ask :=
  let message := toBytes ("sed: ".toList ++ text ++ ['\n'])
  let writes := e.writes ++ (if e.output.isEmpty then [] else [(1, e.output)]) ++ [(2, message)]
  ({ e with writes, output := [], phase := .gone code }, .more)

/-- A message about a script that has been read. -/
def failLate (e : Editor) (text : List Char) : Editor × Ask :=
  e.fail ("-e expression #".toList ++ (toString e.settings.scripts).toList ++ ", char 0: ".toList ++ text) 1

def warn (e : Editor) (text : List Char) : Editor :=
  { e with writes := e.writes ++ [(2, toBytes ("sed: ".toList ++ text ++ ['\n']))] }

/-! ### Lines that a command is for -/

/-- A place at which the editor has to know more, or has to give up. -/
inductive Stop where
  | look
  | noPattern
deriving Repr, DecidableEq

def resolve (e : Editor) (p : Pattern) (address : Bool) : Except Stop (Matcher × Bool) :=
  match p, e.lastPattern with
  | some m, _ => .ok (m, address)
  | none, some last => .ok last
  | none, none => .error .noPattern

def isAt (e : Editor) (a : Address) : Except Stop (Bool × Editor) :=
  match a with
  | .line n => .ok (e.number == n, e)
  | .step first by' => .ok (first ≤ e.number && (e.number - first) % by' == 0, e)
  | .last =>
    match e.atEnd with
    | some last => .ok (last, e)
    | none => .error .look
  | .pattern p =>
    match e.resolve p true with
    | .error s => .error s
    | .ok last => .ok ((last.1.find e.space.toArray 0).isSome, { e with lastPattern := some last })
  | .plus _ | .multiple _ => .ok (false, e)

/-- The end of a range that started at an address. -/
def closed (e : Editor) (pc : Nat) (a : Address) : Editor :=
  let range := match a with
    | .line _ => Range.behind
    | _ => .outside
  { e with ranges := e.ranges.setIfInBounds pc range }

def applies (e : Editor) (pc : Nat) (edit : Edit) : Except Stop (Bool × Editor) :=
  match edit.first, edit.second with
  | none, _ => .ok (true, e)
  | some a, none => e.isAt a
  | some a, some b =>
    let enter (e : Editor) (range : Range) : Editor := { e with ranges := e.ranges.setIfInBounds pc range }
    let starts : Except Stop (Bool × Editor) :=
      match a with
      | .line n => .ok (n ≤ e.number, e)
      | a => e.isAt a
    match (e.ranges[pc]?).getD .outside with
    | .behind => .ok (false, e)
    | .outside =>
      match starts with
      | .error s => .error s
      | .ok (false, e) => .ok (false, e)
      | .ok (true, e) =>
        match b with
        | .line n =>
          if n ≤ e.number then
            match a with
            | .line first => .ok (e.number ≤ n || e.number == first, enter e .behind)
            | _ => .ok (true, e)
          else .ok (true, enter e (.inside (some n)))
        | .last =>
          match e.isAt .last with
          | .error s => .error s
          | .ok (last, e) => .ok (true, if last then e.closed pc a else enter e (.inside none))
        | .plus n => .ok (true, if n = 0 then e.closed pc a else enter e (.inside (some (e.number + n))))
        | .multiple n =>
          .ok (true, if n = 0 then e.closed pc a else enter e (.inside (some ((e.number / n + 1) * n))))
        | _ => .ok (true, enter e (.inside none))
    | .inside (some stop) =>
      let e' := if stop ≤ e.number then e.closed pc a else e
      match b with
      | .line _ => .ok (e.number ≤ stop, e')
      | _ => .ok (true, e')
    | .inside none =>
      match e.isAt b with
      | .error s => .error s
      | .ok (found, e) => .ok (true, if found then e.closed pc a else e)

/-! ### Substitution -/

def inCase (casing first : Casing) (text : List Char) : List Char :=
  let change : Casing → Char → Char
    | .plain, c => c
    | .upper, c => c.toUpper
    | .lower, c => c.toLower
  match text with
  | [] => []
  | c :: rest =>
    change (if first = .plain then casing else first) c :: rest.map (change casing)

/-- What the pieces of a replacement stand for; `pending` is a case for the next character that an
empty group has left. -/
def replacement (text : Array Char) (m : Match) : Casing → List Piece → List Char
  | _, [] => []
  | pending, p :: rest =>
    let first := if p.first = .plain then pending else p.first
    let start := inCase p.casing first p.text
    let after := if p.text.isEmpty then first else .plain
    match p.group with
    | none => start ++ replacement text m .plain rest
    | some n =>
      match m.group? n with
      | some (low, high) =>
        let group := (text.extract low high).toList
        let left := if group.isEmpty && p.first != .plain then after else .plain
        start ++ inCase p.casing after group ++ replacement text m left rest
      | none =>
        let left := if p.first != .plain then after else .plain
        start ++ replacement text m left rest

/-- Replaces matches from a place on. `count` numbers the matches, `before` is the end of the last one.
The result is newest first. -/
def replaceFrom (s : Substitution) (m : Matcher) (text : Array Char) :
    Nat → (start count : Nat) → (before : Option Nat) → (done : Bool) → List Char → List Char × Bool
  | 0, _, _, _, done, acc => (acc, done)
  | fuel + 1, start, count, before, done, acc =>
    let rest (start : Nat) (acc : List Char) : List Char :=
      (text.extract start text.size).toList.reverseAux acc
    match m.find text start with
    | none => (rest start acc, done)
    | some found =>
      let acc := (text.extract start found.start).toList.reverseAux acc
      let next (count : Nat) (done : Bool) (acc : List Char) : List Char × Bool :=
        if found.start < found.stop then replaceFrom s m text fuel found.stop count (some found.stop) done acc
        else
          match text[found.stop]? with
          | some c => replaceFrom s m text fuel (found.stop + 1) count none done (c :: acc)
          | none => (acc, done)
      if found.start = found.stop && before == some found.start then next count done acc
      else if count < s.number then next (count + 1) done ((text.extract found.start found.stop).toList.reverseAux acc)
      else
        let acc := (replacement text found .plain s.pieces).reverseAux acc
        if s.everywhere then next (count + 1) true acc else (rest found.stop acc, true)

/-! ### Showing -/

def visible (c : Char) : List Char :=
  let n := c.toNat
  let octal (n : Nat) : Char := Char.ofNat (48 + n % 8)
  match n with
  | 92 => ['\x5c', '\x5c']
  | 7 => ['\x5c', 'a']
  | 8 => ['\x5c', 'b']
  | 12 => ['\x5c', 'f']
  | 10 => ['\x5c', 'n']
  | 13 => ['\x5c', 'r']
  | 9 => ['\x5c', 't']
  | 11 => ['\x5c', 'v']
  | n => if 32 ≤ n && n < 127 then [c] else ['\x5c', octal (n / 64), octal (n / 8), octal n]

/-- A line so that all of it can be seen, in pieces of a width. -/
def visibleLine (delimiter : Char) (width : Nat) : Nat → List Char → List Char
  | _, [] => ['$', delimiter]
  | used, c :: rest =>
    let text := visible c
    if 0 < width && width - 1 < used + text.length then
      ['\x5c', delimiter] ++ text ++ visibleLine delimiter width text.length rest
    else text ++ visibleLine delimiter width (used + text.length) rest

/-! ### Commands -/

def nextCycle (e : Editor) : Editor :=
  { e with phase := .dump (.fetch .cycle) }

/-- The end of the commands: the line is written. -/
def endCycle (e : Editor) : Editor :=
  nextCycle (if e.settings.quiet then e else e.putSpace .output)

def putFirst (e : Editor) (o : Outlet) : Editor :=
  let inside := e.space.contains e.settings.delimiter
  e.putLine o (e.space.takeWhile (· != e.settings.delimiter)) (inside || e.delimited)

def currentName (e : Editor) : List Char :=
  match e.current with
  | some (_, some name) => ofBytes name
  | _ => ['-']

def act (e : Editor) (pc : Nat) (edit : Edit) : Editor × Ask :=
  let next (e : Editor) : Editor × Ask := ({ e with phase := .run (pc + 1) }, .more)
  match edit.action with
  | .block _ | .nothing => next e
  | .number => next (e.putEnded .output ((toString e.number).toList ++ ['\n']))
  | .append text => next { e with appended := e.appended ++ [.text text] }
  | .insert text => next (e.putEnded .output text)
  | .change text =>
    let inside := match e.ranges[pc]? with
      | some (.inside _) => edit.second.isSome
      | _ => false
    let e := if inside then e else e.putEnded .output text
    (e.nextCycle, .more)
  | .jump kind target =>
    let jumps := match kind with
      | .always => true
      | .ifReplaced => e.replaced
      | .unlessReplaced => !e.replaced
    let e := if kind = .always then e else { e with replaced := false }
    if jumps then ({ e with phase := .run target }, .more) else next e
  | .delete => (e.nextCycle, .more)
  | .deleteFirst =>
    if e.space.contains e.settings.delimiter then
      ({ e with space := (e.space.dropWhile (· != e.settings.delimiter)).drop 1, phase := .dump .again }, .more)
    else (e.nextCycle, .more)
  | .fileName => next (e.putEnded .output (e.currentName ++ ['\n']))
  | .get => next { e with space := e.held, delimited := e.heldDelimited }
  | .getMore =>
    next { e with space := e.space ++ e.settings.delimiter :: e.held, delimited := e.heldDelimited }
  | .hold => next { e with held := e.space, heldDelimited := e.delimited }
  | .holdMore =>
    next { e with held := e.held ++ e.settings.delimiter :: e.space, heldDelimited := e.delimited }
  | .show width => next (e.putEnded .output (visibleLine e.settings.delimiter (width.getD e.settings.width) 0 e.space))
  | .next =>
    let e := if e.settings.quiet || e.shown then e else e.putSpace .output
    match e.atEnd with
    | none => ({ e with shown := true, phase := .look pc true }, .more)
    | some true => ({ e with shown := false }.nextCycle, .more)
    | some false => ({ e with shown := false, phase := .dump (.fetch (.replace (pc + 1))) }, .more)
  | .nextMore =>
    match e.atEnd with
    | none => ({ e with phase := .look pc true }, .more)
    | some true =>
      let e := if e.settings.quiet then e else e.putSpace .output
      (e.nextCycle, .more)
    | some false => ({ e with phase := .dump (.fetch (.more (pc + 1))) }, .more)
  | .print => next (e.putSpace .output)
  | .printFirst => next (e.putFirst .output)
  | .quit silent code =>
    let e := if silent || e.settings.quiet then e else (e.putSpace .output).finishLine .output
    ({ e with phase := if silent then .leave code else .dump (.leave code) }, .more)
  | .readFile name => next { e with appended := e.appended ++ [.file name] }
  | .readLine name => next { e with appended := e.appended ++ [.line name] }
  | .substitute s =>
    match e.resolve s.pattern false with
    | .error _ => e.failLate "no previous regular expression".toList
    | .ok (m, address) =>
      let text := e.space.toArray
      let e := { e with lastPattern := some (m, address) }
      if address && m.groups < s.highest then
        e.failLate ("invalid reference \\".toList ++ (toString s.highest).toList ++
          " on \x60s' command's RHS".toList)
      else
        match replaceFrom s m text (text.size + 2) 0 1 none false [] with
        | (_, false) => next e
        | (result, true) =>
          let e := { e with space := result.reverse, replaced := true }
          let e := if s.print then e.putSpace .output else e
          next (match s.outlet with
            | some o => e.putSpace o
            | none => e)
  | .write o => next (e.putSpace o)
  | .writeFirst o => next (e.putFirst o)
  | .exchange =>
    next { e with space := e.held, delimited := e.heldDelimited, held := e.space, heldDelimited := e.delimited }
  | .translate table => next { e with space := e.space.map fun c => (table.lookup c).getD c }
  | .zap => next { e with space := [] }

def runAt (e : Editor) (pc : Nat) : Editor × Ask :=
  match e.edits[pc]? with
  | none => (e.endCycle, .more)
  | some edit =>
    match e.applies pc edit with
    | .error .look => ({ e with phase := .look pc false }, .more)
    | .error .noPattern => e.failLate "no previous regular expression".toList
    | .ok (applies, e) =>
      if applies != edit.inverted then e.act pc edit
      else
        match edit.action with
        | .block stop => ({ e with phase := .run stop }, .more)
        | _ => ({ e with phase := .run (pc + 1) }, .more)

/-! ### Reading -/

/-- The first line of a text that has its delimiter. -/
def wholeLine? (delimiter : Char) (text : List Char) : Option (List Char × List Char) :=
  let line := text.takeWhile (· != delimiter)
  match text.drop line.length with
  | _ :: rest => some (line, rest)
  | [] => none

def gotLine (e : Editor) (why : Fetch) (line rest : List Char) (whole : Bool) : Editor :=
  let e := { e with buffer := rest, number := e.number + 1, atEnd := none }
  let delimited := whole || !e.files.isEmpty
  match why with
  | .cycle => { e with space := line, delimited, phase := .run 0 }
  | .replace pc => { e with space := line, delimited, phase := .run pc }
  | .more pc => { e with space := e.space ++ e.settings.delimiter :: line, delimited, phase := .run pc }

def noLine (e : Editor) (why : Fetch) : Editor :=
  match why with
  | .cycle => { e with phase := .leave e.status }
  | .replace _ | .more _ => e.endCycle

def readSize (e : Editor) : Nat :=
  if e.settings.unbuffered then 1 else blockSize

/-- Leaves the file that has been read. What was written for it takes its place. -/
def leaveFile (e : Editor) : Editor :=
  { e with current := none, buffer := [], ended := false }

/-- The ranges before the first line. A range from before it on is open. -/
def startRanges (edits : Array Edit) : Array Range :=
  edits.map fun e =>
    match e.first, e.second with
    | some (.line 0), some _ => .inside none
    | _, _ => .outside

def nextFile? (e : Editor) (opened : Bytes → Phase) : Option (Editor × Ask) :=
  let reset (e : Editor) : Editor :=
    if e.settings.separate then { e with number := 0, ranges := startRanges e.edits } else e
  match e.files with
  | [] => none
  | none :: files => some (reset { e.leaveFile with files, current := some (0, none) }, .more)
  | some name :: files => some (reset { e.leaveFile with files, phase := opened name }, .open name .read)

def leaving (e : Editor) : Option (Editor × Ask) :=
  match e.current with
  | some (fd, some name) =>
    if e.settings.inPlace.isSome then
      some ({ e.leaveFile with output := [], unfinished := [] }, .replace name e.output)
    else some (e.leaveFile, .close fd)
  | _ => none

def fetch (e : Editor) (why : Fetch) : Editor × Ask :=
  match wholeLine? e.settings.delimiter e.buffer with
  | some (line, rest) => (e.gotLine why line rest true, .more)
  | none =>
    match e.current with
    | some (fd, _) =>
      if !e.ended then ({ e with phase := .fetched why }, .read fd e.readSize)
      else if !e.buffer.isEmpty then (e.gotLine why e.buffer [] false, .more)
      else
        match e.leaving with
        | some r => r
        | none => (e.leaveFile, .more)
    | none =>
      match e.nextFile? (.fetchOpened why) with
      | some r => r
      | none => (e.noLine why, .more)

def look (e : Editor) (pc : Nat) (chosen : Bool) : Editor × Ask :=
  let known (last : Bool) : Editor × Ask :=
    ({ e with atEnd := some last, phase := if chosen then .carry pc else .run pc }, .more)
  if !e.buffer.isEmpty then known false
  else
    match e.current with
    | some (fd, _) =>
      if !e.ended then ({ e with phase := .looked pc chosen }, .read fd e.readSize)
      else if e.settings.separate then known true
      else
        match e.leaving with
        | some r => r
        | none => (e.leaveFile, .more)
    | none =>
      match e.nextFile? (.lookOpened pc chosen) with
      | some r => r
      | none => known true

def cannotRead (e : Editor) (name : Bytes) (reason : Host.Errno) : Editor :=
  { e.warn ("can't read ".toList ++ ofBytes name ++ ": ".toList ++ reason.reason.toList) with status := 2 }

def received (e : Editor) (answer : Answer) (back : Phase) : Editor × Ask :=
  let e := { e with phase := back }
  match answer with
  | .data bytes => ({ e with buffer := e.buffer ++ ofBytes bytes }, .more)
  | .failed reason =>
    let name := match e.current with
      | some (_, some name) => ofBytes name
      | _ => "stdin".toList
    e.fail ("read error on ".toList ++ name ++ ": ".toList ++ reason.reason.toList) 4
  | _ => ({ e with ended := true }, .more)

/-! ### What follows a line -/

def dumped (e : Editor) (next : Onward) : Editor :=
  match next with
  | .fetch why => { e with phase := .fetch why, replaced := false }
  | .again => { e with phase := .run 0 }
  | .leave code => { e with phase := .leave code }

def dump (e : Editor) (next : Onward) : Editor × Ask :=
  match e.appended with
  | [] => (e.dumped next, .more)
  | .text text :: rest => ({ e with appended := rest }.putText .output text, .more)
  | .file name :: rest =>
    let e := { e with appended := rest }.finishLine .output
    if name == "/dev/stdin".toList then ({ e with phase := .dumpFrom next 0 }, .more)
    else ({ e with phase := .dumpOpened next }, .open (toBytes name) .read)
  | .line name :: rest =>
    match e.sources.find? fun s => s.name == name with
    | none => ({ e with phase := .lineOpened next name }, .open (toBytes name) .read)
    | some source =>
      let e := { e with appended := rest }
      let others := e.sources.filter fun s => s.name != name
      match wholeLine? e.settings.delimiter source.buffer, source.fd with
      | some (line, left), _ =>
        ({ e with sources := { source with buffer := left } :: others }.putLine .output line true, .more)
      | none, some fd =>
        ({ e with appended := .line name :: rest, phase := .lineRead next name }, .read fd blockSize)
      | none, none =>
        if source.buffer.isEmpty then (e, .more)
        else ({ e with sources := { source with buffer := [] } :: others }.putLine .output source.buffer true, .more)

def setSource (e : Editor) (source : LineSource) : Editor :=
  { e with sources := source :: e.sources.filter fun s => s.name != source.name }

/-! ### Steps -/

def go (e : Editor) : Editor × Ask :=
  match e.writes with
  | (fd, bytes) :: writes => ({ e with writes, phase := .wrote fd e.phase }, .write fd bytes)
  | [] =>
    match e.phase with
    | .outlets [] => ({ e with phase := .dump (.fetch .cycle) }, .more)
    | .outlets (name :: names) => ({ e with phase := .outletOpened name names }, .open (toBytes name) .write)
    | .fetch why => e.fetch why
    | .look pc chosen => e.look pc chosen
    | .carry pc =>
      match e.edits[pc]? with
      | some edit => e.act pc edit
      | none => (e.endCycle, .more)
    | .dump next => e.dump next
    | .dumpFrom next fd => ({ e with phase := .dumpRead next fd }, .read fd blockSize)
    | .run pc => e.runAt pc
    | .leave code =>
      match e.current, e.settings.inPlace with
      | some (_, some name), some _ => ({ e with output := [], current := none }, .replace name e.output)
      | _, _ =>
        ({ e with output := [], phase := .flushed code }, .write 1 e.output)
    | .gone code =>
      match e.current with
      | some (0, _) => ({ e with current := none }, .giveBack 0 e.buffer.length)
      | _ => (e, .exit code)
    | .broken code => (e, .exit code)
    | _ => (e, .exit e.status)

/-- The standard output does not take what is written. -/
def cannotWrite (e : Editor) (fd : Nat) (reason : Host.Errno) : Editor × Ask :=
  let name := if fd = 1 then "stdout" else "file"
  let verb := if reason = .badDescriptor then "close " else "flush "
  let text := "sed: couldn't " ++ verb ++ name ++ ": " ++ reason.reason ++ "\n"
  ({ e with output := [], writes := [(2, toBytes text.toList)], phase := .broken 4 }, .more)

def step (e : Editor) (answer : Answer) : Editor × Ask :=
  match e.phase with
  | .wrote fd behind =>
    match answer, behind with
    | .failed _, .broken _ => { e with phase := behind }.go
    | .failed reason, _ => if fd = 2 then { e with phase := behind }.go else e.cannotWrite fd reason
    | _, _ => { e with phase := behind }.go
  | .flushed code =>
    match answer with
    | .failed reason => e.cannotWrite 1 reason
    | _ => ({ e with phase := .gone code }, .more)
  | .outletOpened name names =>
    match answer with
    | .opened fd => ({ e with outlets := (name, fd) :: e.outlets, phase := .outlets names }, .more)
    | .failed reason =>
      e.fail ("couldn't open file ".toList ++ name ++ ": ".toList ++ reason.reason.toList) 4
    | _ => ({ e with phase := .outlets names }, .more)
  | .fetched why => e.received answer (.fetch why)
  | .looked pc chosen => e.received answer (.look pc chosen)
  | .fetchOpened why name =>
    match answer with
    | .opened fd => ({ e with current := some (fd, some name), phase := .fetch why }, .more)
    | .failed reason => ({ e.cannotRead name reason with phase := .fetch why }, .more)
    | _ => ({ e with phase := .fetch why }, .more)
  | .lookOpened pc chosen name =>
    match answer with
    | .opened fd => ({ e with current := some (fd, some name), phase := .look pc chosen }, .more)
    | .failed reason => ({ e.cannotRead name reason with phase := .look pc chosen }, .more)
    | _ => ({ e with phase := .look pc chosen }, .more)
  | .dumpOpened next =>
    match answer with
    | .opened fd => ({ e with phase := .dumpFrom next fd }, .more)
    | _ => ({ e with phase := .dump next }, .more)
  | .dumpRead next fd =>
    match answer with
    | .data bytes =>
      let e := e.putText .output (ofBytes bytes)
      ({ e with phase := .dumpFrom next fd }, .more)
    | _ => ({ e with phase := .dump next }, if fd = 0 then .more else .close fd)
  | .lineOpened next name =>
    match answer with
    | .opened fd => ({ e.setSource ⟨name, some fd, []⟩ with phase := .dump next }, .more)
    | _ => ({ e.setSource ⟨name, none, []⟩ with phase := .dump next }, .more)
  | .lineRead next name =>
    match e.sources.find? fun s => s.name == name, answer with
    | some source, .data bytes =>
      ({ e.setSource { source with buffer := source.buffer ++ ofBytes bytes } with phase := .dump next }, .more)
    | some source, _ => ({ e.setSource { source with fd := none } with phase := .dump next }, .more)
    | none, _ => ({ e with phase := .dump next }, .more)
  | _ => e.go

end Editor

end PartyBridge.Tool.Sed
