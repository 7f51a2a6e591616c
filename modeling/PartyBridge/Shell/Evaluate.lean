import PartyBridge.Shell.Builtin.Dispatch
import PartyBridge.Shell.FileNames

/-!
# Evaluation of commands

A command leaves the tasks that carry it out. A simple command goes through stages: its words are
expanded, its redirections made, its assignments made, and then it runs.
-/

namespace PartyBridge.Shell

open Host (Machine)

/-- The expansion that a task needs has stopped: the shell has a fault, ends, or has to run a command
before the task goes on. -/
def expansionStopped (m : Machine) (pid : Nat) (st : State) (task : Task) (stop : ExpansionStop) : Machine :=
  match stop with
  | .fault text => m.setBody pid (.shell (st.dies text))
  | .crash => m.finish pid (.ofSignal Host.sigFpe)
  | .needs body inner => startSubstitution m pid (st.push task) inner body

/-! ### How a command is asked for -/

inductive CommandFront where
  /-- More arguments are needed. -/
  | unfinished
  /-- The builtin itself is asked for. -/
  | itself
  /-- The name of a command follows so many arguments. -/
  | past (n : Nat) (standard : Bool)
deriving Repr, DecidableEq

def commandFront (n : Nat) (standard : Bool) : List (List Char) → CommandFront
  | [] => .unfinished
  | ['-', '-'] :: rest => if rest.isEmpty then .unfinished else .past (n + 1) standard
  | ('-' :: c :: letters) :: rest =>
    if (c :: letters).all (· == 'p') then commandFront (n + 1) true rest else .itself
  | _ => .past n standard

/-- Builtins whose arguments may be assignments. -/
def takesAssignments (name : List Char) : Bool :=
  ["export", "readonly", "local"].contains (String.ofList name)

/-- How a command is asked for by the fields that are known, if they tell. `more` tells that there may
be more of them; `special` is known behind `command`. -/
def askedFor (st : State) (more : Bool) : Nat → Asked → (special : Option Bool) → List (List Char) → Option Asked
  | 0, asked, _, _ => some asked
  | _ + 1, asked, _, [] => if more then none else some asked
  | fuel + 1, asked, special, name :: args =>
    let builtin := isBuiltin name && (asked.direct || (st.functions.lookup name).isNone)
    let asked := { asked with special := special.getD (builtin && isSpecialBuiltin name) }
    if !builtin then some asked
    else if name != "command".toList then some { asked with assigning := takesAssignments name }
    else
      match commandFront 0 asked.standardPath args with
      | .past n standard =>
        let behind := { asked with skip := asked.skip + n + 1, direct := true, standardPath := standard }
        askedFor st more fuel behind (some asked.special) (args.drop n)
      | .itself => some { asked with direct := false }
      | .unfinished => if more then none else some { asked with direct := false }

namespace Simple

def argv (s : Simple) : List (List Char) :=
  s.fields.drop ((s.asked.map Asked.skip).getD 0)

def isSpecial (s : Simple) : Bool :=
  s.asked.any Asked.special

/-- Whether assignments of the command last no longer than the command. -/
def isLocal (s : Simple) : Bool :=
  !s.fields.isEmpty && !s.isSpecial

def add (s : Simple) (st : State) (words : List Word) (fields : List (List Char)) : Simple :=
  let fields := s.fields ++ fields
  let asked := match s.asked with
    | some asked => some asked
    | none =>
      if fields.isEmpty then none
      else askedFor st (!words.isEmpty) (fields.length + 1) ⟨0, false, false, false, false⟩ none fields
  { s with words, fields, asked }

end Simple

def expandNextWord (m : Machine) (pid : Nat) (st : State) (s : Simple) : Machine :=
  match s.words with
  | [] => m.setBody pid (.shell (st.push (.targets s.redirects [] (.simple s))))
  | word :: words =>
    let expanded : Except ExpansionStop (List (List Char) × State) :=
      if s.asked.any Asked.assigning && Word.isAssignment word then
        (expandText st .assign word).map fun (text, st) => ([text], st)
      else expandFields m.tree (cwdOf m pid) st word
    match expanded with
    | .error stop => expansionStopped m pid st (.simple s) stop
    | .ok (fields, st) => m.setBody pid (.shell (st.push (.simple (s.add st words fields))))

/-! ### Redirections -/

/-- A shell of its own for a command that has redirections. Without anything that follows, the shell
itself is enough. -/
def forkGroup (m : Machine) (pid : Nat) (st : State) (goals : List (Nat × Goal)) (body : Option Command)
    (mode : Mode) (background : Bool) : Machine :=
  if !background && mode.final && !st.hasTraps then
    let stack := [Task.redirect goals [] (.child body mode)]
    m.setBody pid (.shell { st with outerLoops := st.loopCount, readLine := st.currentLine, stack })
  else
    let (st, slot) := st.newJob
    let child := Redirected.child body ⟨mode.tested && !background, true⟩
    let (m, st, childPid) := forkShell m pid st slot (st.forked [.redirect goals [] child])
    if background then
      (putBehind m childPid false).setBody pid (.shell { st with lastChild := some childPid, status := 0 })
    else m.setBody pid (.shell (st.push (.await slot)))

/-- Where a redirection to a descriptor leads. -/
def copyGoal? (text : List Char) : Option Goal :=
  match text with
  | ['-'] => some .close
  | [c] => if c.isDigit then some (.copy (c.toNat - 48)) else none
  | _ => none

def expandTarget (m : Machine) (pid : Nat) (st : State) (todo : List Redirect) (goals : List (Nat × Goal))
    (behind : Redirected) : Machine :=
  let commit (st : State) : Machine := m.setBody pid (.shell st)
  match todo with
  | [] =>
    match behind with
    | .fork body mode background => forkGroup m pid st goals body mode background
    | _ => commit (st.push (.redirect goals [] behind))
  | r :: rest =>
    let next (st : State) (goal : Goal) : Machine := commit (st.push (.targets rest (goals ++ [(r.fd, goal)]) behind))
    let again := Task.targets todo goals behind
    match r.kind with
    | .here expands => next st (.text expands r.target)
    | .duplicate =>
      match expandFields m.tree (cwdOf m pid) st r.target with
      | .error stop => expansionStopped m pid st again stop
      | .ok (fields, st) =>
        match copyGoal? (fields.headD []) with
        | some goal => next st goal
        | none => commit (st.diesAt st.currentLine "Syntax error: Bad fd number".toList)
    | kind =>
      match expandText st .single r.target with
      | .error stop => expansionStopped m pid st again stop
      | .ok (name, st) => next st (.file kind name)

/-- A redirection could not be made. Only a special builtin, or a shell of its own, ends with it. -/
def redirectionFailed (m : Machine) (pid : Nat) (st : State) (saved : SavedFds) (behind : Redirected)
    (text : List Char) : Machine :=
  let message := Task.write 2 (toBytes (st.messageLine text)) []
  let after := match behind with
    | .simple s => if s.isSpecial then st.fails 2 else st.withStatus 2
    | .child .. => st.fails 2
    | _ => st.withStatus 2
  m.setBody pid (.shell (after.pushAll [message, .restore saved]))

def redirected (m : Machine) (pid : Nat) (st : State) (saved : SavedFds) (behind : Redirected) : Machine :=
  let commit (st : State) : Machine := m.setBody pid (.shell st)
  let eval (body : Option Command) (mode : Mode) : List Task := body.elim [] fun command => [.eval command mode]
  match behind with
  | .group body tested => commit (st.pushAll (eval body ⟨tested, false⟩ ++ [.restore saved]))
  | .child body mode | .fork body mode _ => commit (st.pushAll (eval body mode))
  | .simple s =>
    let trace := ((saved.lookup 2).join).getD 2
    let st := if s.redirects.isEmpty then st else st.push (.restore saved)
    let st := if s.isLocal then { st with locals := [] :: st.locals }.push .endLocals else st
    commit (st.push (.assign { s with trace }))

def makeRedirection (m : Machine) (pid : Nat) (st : State) (todo : List (Nat × Goal)) (saved : SavedFds)
    (behind : Redirected) : Machine :=
  match todo with
  | [] => redirected m pid st saved behind
  | (n, goal) :: rest =>
    let keep := match behind with
      | .child .. | .fork .. => false
      | _ => true
    let next (m : Machine) (st : State) (source : Source) : Machine :=
      match replaceFd m pid n source keep saved with
      | (m, saved, none) => m.setBody pid (.shell (st.push (.redirect rest saved behind)))
      | (m, saved, some text) => redirectionFailed m pid st saved behind text
    match goal with
    | .copy k => next m st (.copied k)
    | .close => next m st .closed
    | .file kind name =>
      match openTarget m pid (st.has .noclobber) kind name with
      | .ok (m, fd) => next m st (.opened fd)
      | .error text => redirectionFailed m pid st saved behind text
    | .text expands word =>
      let text : Except ExpansionStop (List Char × State) :=
        if expands then expandText st .document word else .ok (Word.unquoted word, st)
      match text with
      | .ok (text, st) =>
        let (m, fd) := textFd m text
        next m st (.opened fd)
      | .error (.fault text) => redirectionFailed m pid st saved behind text
      | .error stop => expansionStopped m pid st (.redirect todo saved behind) stop

/-! ### Assignments -/

def traceFront (st : State) : List Char :=
  let front := (st.get? "PS4".toList).getD []
  match readText front with
  | none => front
  | some word =>
    match expandText { st with outputs := List.replicate word.length [] } .document word with
    | .ok (text, _) => text
    | .error _ => []

def makeAssignment (m : Machine) (pid : Nat) (st : State) (s : Simple) : Machine :=
  let commit (st : State) : Machine := m.setBody pid (.shell st)
  match s.assigns with
  | [] =>
    let st := st.push (.execute s)
    if st.has .xtrace then
      let line := traceFront st ++ [' '].intercalate (s.made ++ s.fields) ++ ['\n']
      commit (st.push (.write s.trace (toBytes line) []))
    else commit st
  | word :: assigns =>
    match expandText st .assign word with
    | .error stop => expansionStopped m pid st (.assign s) stop
    | .ok (text, st) =>
      let (name, value) := cutAssignment text
      let exports := s.argv.head? == some "exec".toList && 1 < s.argv.length
      let made :=
        if s.isLocal then st.makeLocal text true
        else if st.isFixed name then .error (name ++ ": is read only".toList)
        else
          let st := st.set name (value.getD [])
          .ok (if exports then st.export name else st)
      match made with
      | .error text => commit (st.dies text)
      | .ok st => commit (st.push (.assign { s with assigns, made := s.made ++ [text] }))

/-! ### Running -/

/-- Runs a program: in the place of the shell if nothing follows, and else as a job. -/
def runProgram (m : Machine) (pid : Nat) (st : State) (s : Simple) (name : List Char) : Machine :=
  let cwd := cwdOf m pid
  let standard := s.asked.any Asked.standardPath
  let path := if standard then standardPath else st.path
  let found : Except Host.Errno (Nat × State) :=
    if name.contains '/' then .ok (0, st)
    else if standard then
      (searchProgram m.tree cwd 0 .noEntry (programPaths path name)).map fun n => (n, st)
    else st.track m.tree cwd name
  match found with
  | .error e => m.setBody pid (.shell ((st.withStatus 127).complain (programFault name e)))
  | .ok (n, st) =>
    if s.mode.final && !st.hasTraps then becomeCommand m pid st path n s.argv
    else
      let (st, slot) := st.newJob
      let (m, st) := startCommand m pid st slot path n s.argv
      m.setBody pid (.shell (st.push (.await slot)))

def callFunction (st : State) (body : Option Command) (tested : Bool) (args : List (List Char)) : State :=
  let leave := Task.leave st.params st.optionIndex st.optionOffset
  let tasks := body.elim [] fun command => [Task.eval command ⟨tested, false⟩]
  { st.pushAll (tasks ++ [leave]) with params := args, optionIndex := 1, optionOffset := none }

def executeSimple (m : Machine) (pid : Nat) (st : State) (s : Simple) : Machine :=
  let commit (st : State) : Machine := m.setBody pid (.shell st)
  match s.argv with
  | [] =>
    let (m, st, _) := reapChildren m pid (st.withStatus st.substituted) none
    m.setBody pid (.shell st)
  | name :: args =>
    let function? := if s.asked.any Asked.direct then none else st.functions.lookup name
    match function? with
    | some body => commit (callFunction st body s.mode.tested args)
    | none =>
      if isBuiltin name then
        let st := { st.push (.endBuiltin st.speaker (!s.isSpecial)) with speaker := some name }
        runBuiltin m pid st s.mode.tested name args
      else runProgram m pid st s name

/-! ### Commands -/

/-- The name of a program that a command of a pipeline names plainly; it is searched for beforehand. -/
def plainName? : Command → Option (List Char)
  | .simple _ _ (word :: _) _ => (Word.plain? word).filter isName
  | _ => none

def trackPlain (m : Machine) (pid : Nat) (st : State) (commands : List Command) : State :=
  (commands.filterMap plainName?).foldl
    (fun st name =>
      if isBuiltin name || (st.functions.lookup name).isSome then st
      else
        match st.track m.tree (cwdOf m pid) name with
        | .ok (_, st) => st
        | .error _ => st)
    st

def evaluateCommand (m : Machine) (pid : Nat) (st : State) (command : Command) (mode : Mode) : Machine :=
  let commit (st : State) : Machine := m.setBody pid (.shell st)
  let whole (st : State) : State := st.push (.settle true)
  let checked (st : State) : State := st.push (.settle mode.tested)
  let condition := Mode.mk true false
  let inner := { mode with final := false }
  let eval (body : Option Command) (mode : Mode) : List Task := body.elim [] fun command => [.eval command mode]
  match command with
  | .simple line assigns words redirects =>
    let s : Simple := ⟨mode, words, [], none, assigns, redirects, [], 2⟩
    commit ((checked { st with line, substituted := 0 }).push (.simple s))
  | .pipe background commands =>
    let (st, slot) := (trackPlain m pid (checked st) commands).newJob
    let (m, st) := startPipeline pid slot mode background m st commands none
    m.setBody pid (.shell (if background then st.withStatus 0 else st.push (.await slot)))
  | .negate command => commit ((whole st).pushAll [.eval command condition, .invert])
  | .both first second => commit ((whole st).pushAll [.eval first condition, .next true second mode])
  | .either first second => commit ((whole st).pushAll [.eval first condition, .next false second mode])
  | .seq first second => commit ((whole st).pushAll [.eval first inner, .eval second mode])
  | .subshell line body redirects =>
    commit ((checked { st with line }).push (.targets redirects [] (.fork body mode false)))
  | .background line body redirects =>
    commit ((checked { st with line }).push (.targets redirects [] (.fork body mode true)))
  | .redirected line body redirects =>
    commit ((whole { st with line }).push (.targets redirects [] (.group body mode.tested)))
  | .branch test body otherwise => commit ((whole st).pushAll (eval test condition ++ [.choose body otherwise mode]))
  | .loop untilTrue test body =>
    commit ((whole st).pushAll (eval test condition ++ [.loopTest untilTrue test body mode.tested 0]))
  | .each line name words body =>
    commit ((whole { st with line }).push (.eachWords line name words [] body mode.tested))
  | .select line subject arms => commit ((whole { st with line }).push (.select line subject arms mode))
  | .define name body =>
    let functions := (name, body) :: st.functions.filter fun (f, _) => f != name
    commit (whole { st.withStatus 0 with functions, tracked := st.tracked.filter fun (f, _) => f != name })

end PartyBridge.Shell
