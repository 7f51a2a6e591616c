import PartyBridge.Engine.Exit
import PartyBridge.Shell.Fields
import PartyBridge.Shell.Grammar

/-!
# The state of a shell

A shell carries out the tasks on its stack, the topmost first. Words are expanded one at a time; while
a command inside a word runs, the outputs of those before it are kept, and the word is expanded again
when the next one is known.
-/

namespace PartyBridge.Shell

open Engine (Exit)

/-! ### Options -/

inductive Flag where
  | errexit
  | noglob
  | ignoreeof
  | interactive
  | monitor
  | noexec
  | stdin
  | xtrace
  | verbose
  | vi
  | emacs
  | noclobber
  | allexport
  | notify
  | nounset
  | privileged
  | nolog
  | debug
deriving Repr, DecidableEq, Inhabited

namespace Flag

def all : List (Flag × String × Option Char) :=
  [(.errexit, "errexit", some 'e'), (.noglob, "noglob", some 'f'), (.ignoreeof, "ignoreeof", some 'I'),
    (.interactive, "interactive", some 'i'), (.monitor, "monitor", some 'm'), (.noexec, "noexec", some 'n'),
    (.stdin, "stdin", some 's'), (.xtrace, "xtrace", some 'x'), (.verbose, "verbose", some 'v'),
    (.vi, "vi", some 'V'), (.emacs, "emacs", some 'E'), (.noclobber, "noclobber", some 'C'),
    (.allexport, "allexport", some 'a'), (.notify, "notify", some 'b'), (.nounset, "nounset", some 'u'),
    (.privileged, "privileged", some 'p'), (.nolog, "nolog", none), (.debug, "debug", none)]

def ofLetter? (c : Char) : Option Flag :=
  (all.find? fun (_, _, letter) => letter == some c).map Prod.fst

def ofName? (name : List Char) : Option Flag :=
  (all.find? fun (_, text, _) => text.toList == name).map Prod.fst

end Flag

/-! ### Variables and jobs -/

/-- A variable; without a value it only keeps whether programs that the shell starts see it, and whether
it may change. -/
structure Variable where
  name : List Char
  value : Option (List Char)
  exported : Bool
  fixed : Bool
deriving Repr, DecidableEq, Inhabited

/-- A variable, or the options, before something local changed them. -/
inductive Saved where
  | var (name : List Char) (old : Option Variable)
  | flags (old : List Flag)
deriving Repr, DecidableEq, Inhabited

/-- Processes that were started together, how those that have ended did, and whether somebody has
waited for them. -/
structure Job where
  processes : List (Nat × Option Exit)
  waited : Bool
deriving Repr, DecidableEq, Inhabited

namespace Job

def isDone (job : Job) : Bool :=
  job.processes.all fun (_, exit) => exit.isSome

def exitStatus (exit : Exit) : Nat :=
  match exit.code, exit.signal with
  | some code, _ => (code % 256).toNat
  | none, some signal => 128 + signal.toNat
  | none, none => 255

def status (job : Job) : Nat :=
  match job.processes.getLast? with
  | some (_, some exit) => exitStatus exit
  | _ => 0

end Job

/-! ### Tasks -/

/-- Under which conditions a command runs: whether its failure is looked at, so that it does not end the
shell, and whether nothing follows it. -/
structure Mode where
  tested : Bool
  final : Bool
deriving Repr, DecidableEq, Inhabited

/-- What is left to do of `read`: the variables, whether a backslash is plain, the line so far, newest
first, its length, where the characters without a backslash started, those before them, and where the
last character stood if it was a backslash. -/
structure Reading where
  names : List (List Char)
  raw : Bool
  line : List Char
  size : Nat
  start : Nat
  regions : List Region
  escape : Option Nat
deriving Repr, Inhabited

/-- How a command was asked for: how many fields stand before its name, whether functions are left out,
whether the search uses the standard path, whether it is a special builtin, and whether its arguments may
be assignments. -/
structure Asked where
  skip : Nat
  direct : Bool
  standardPath : Bool
  special : Bool
  assigning : Bool
deriving Repr, DecidableEq, Inhabited

/-- A simple command on its way: the words to be expanded and the fields they have given, how it was
asked for once that is known, assignments and redirections to come, the assignments that were made, and
the descriptor on which it is shown. -/
structure Simple where
  mode : Mode
  words : List Word
  fields : List (List Char)
  asked : Option Asked
  assigns : List Word
  redirects : List Redirect
  made : List (List Char)
  trace : Nat
deriving Inhabited

inductive Goal where
  | file (kind : RedirectKind) (name : List Char)
  | copy (fd : Nat)
  | close
  | text (expands : Bool) (word : Word)
deriving Inhabited

inductive Redirected where
  | simple (s : Simple)
  | group (body : Option Command) (tested : Bool)
  /-- A shell of its own, which makes the redirections itself. -/
  | fork (body : Option Command) (mode : Mode) (background : Bool)
  | child (body : Option Command) (mode : Mode)
deriving Inhabited

inductive ScriptUse where
  /-- The text that the shell was started with. -/
  | main
  | eval
  /-- A file, with its name. -/
  | file
  | trap
deriving Repr, DecidableEq, Inhabited

inductive Task where
  /-- Read and run the rest of a text; `status` is that of its last command. -/
  | script (input : Input) (use : ScriptUse) (tested : Bool) (status : Nat)
  /-- A command of a text has run. -/
  | scriptRan (input : Input) (use : ScriptUse) (tested : Bool)
  /-- Run commands from standard input; the text is what has been read of it. -/
  | listen (input : Input)
  | eval (command : Command) (mode : Mode)
  /-- The end of a command, which may end the shell if it has failed. -/
  | settle (tested : Bool)
  /-- Run a command if the last one succeeded, or failed. -/
  | next (onSuccess : Bool) (command : Command) (mode : Mode)
  | invert
  /-- Choose after the condition of a branch. -/
  | choose (body otherwise : Option Command) (mode : Mode)
  /-- Look at the condition of a loop; `status` is that of the body so far. -/
  | loopTest (untilTrue : Bool) (condition body : Option Command) (tested : Bool) (status : Nat)
  /-- Go through a loop again. -/
  | loopNext (untilTrue : Bool) (condition body : Option Command) (tested : Bool)
  | eachWords (line : Nat) (name : List Char) (words : List Word) (fields : List (List Char))
    (body : Option Command) (tested : Bool)
  | each (name : List Char) (fields : List (List Char)) (body : Option Command) (tested started : Bool)
  | select (line : Nat) (subject : Word) (arms : List (List Word × Option Command)) (mode : Mode)
  | selectArm (text : List Char) (arms : List (List Word × Option Command)) (mode : Mode)
  | simple (s : Simple)
  /-- Expand the targets of redirections. -/
  | targets (todo : List Redirect) (goals : List (Nat × Goal)) (behind : Redirected)
  /-- Make redirections; what they replace is kept. -/
  | redirect (todo : List (Nat × Goal)) (saved : List (Nat × Option Nat)) (behind : Redirected)
  /-- Make the assignments of a simple command. -/
  | assign (s : Simple)
  /-- Run a simple command. -/
  | execute (s : Simple)
  /-- Give descriptors back that a redirection replaced. -/
  | restore (saved : List (Nat × Option Nat))
  /-- Give variables back that were local. -/
  | endLocals
  /-- The end of a function: the caller's parameters. -/
  | leave (params : List (List Char)) (optionIndex : Nat) (optionOffset : Option Nat)
  /-- The end of a builtin that runs commands: the name in messages before it; whether it keeps faults
  from ending the shell. -/
  | endBuiltin (name : Option (List Char)) (guarded : Bool)
  /-- Wait for a job in the foreground. -/
  | await (slot : Nat)
  /-- Wait for a job of the background, or for all; a caught signal ends the wait. -/
  | awaitJobs (todo : List (List Char)) (all : Bool) (current : Option Nat) (status : Nat)
  /-- Collect the output of a command substitution, newest first. -/
  | collect (fd slot : Nat) (output : List Char)
  | read (reading : Reading)
  /-- Write what is left of an output. -/
  | write (fd : Nat) (bytes : Bytes) (name : List Char)
  /-- The end of a trap: the status before it. -/
  | resume (status : Nat) (saved : Option Nat)
  | status (status : Nat)
  | exit (status : Nat)
  | finish (status : Nat)
deriving Inhabited

/-! ### The state -/

structure State where
  bindings : List Variable
  zero : List Char
  params : List (List Char)
  /-- Which parameter `getopts` looks at, and how far it is in it. -/
  optionIndex : Nat
  optionOffset : Option Nat
  functions : List (List Char × Option Command)
  aliases : List (List Char × List Char)
  /-- Programs that have been searched for and found, with the directory of the path. -/
  tracked : List (List Char × Nat)
  /-- The working directory as it was asked for. -/
  place : List Char
  /-- What is done on signals; nothing to do means that a signal is ignored. -/
  traps : List (Nat × List Char)
  /-- Signals that were ignored before the shell started. -/
  ignored : List Nat
  flags : List Flag
  status : Nat
  /-- The status that a trap will give back. -/
  kept : Option Nat
  /-- The status of the last command substitution of a command. -/
  substituted : Nat
  /-- The outputs of the command substitutions of the word that is expanded. -/
  outputs : List (List Char)
  lastChild : Option Nat
  self : Nat
  /-- The line for messages, and the builtin that speaks. -/
  line : Nat
  speaker : Option (List Char)
  /-- The line that was being read when the shell was forked. -/
  readLine : Nat
  /-- Signals that have been caught and not been handled, the last one last. -/
  caught : List Nat
  /-- Jobs by their number, and the numbers, the last job first. -/
  jobs : List (Option Job)
  jobOrder : List Nat
  locals : List (List Saved)
  /-- How many loops are around the shell that was forked. -/
  outerLoops : Nat
  mask : Nat
  stack : List Task
deriving Inhabited

namespace State

def find? (st : State) (name : List Char) : Option Variable :=
  st.bindings.find? fun v => v.name == name

def get? (st : State) (name : List Char) : Option (List Char) :=
  st.find? name >>= Variable.value

def has (st : State) (flag : Flag) : Bool :=
  st.flags.contains flag

def put (st : State) (v : Variable) : State :=
  if (st.find? v.name).isSome then
    { st with bindings := st.bindings.map fun w => if w.name == v.name then v else w }
  else { st with bindings := st.bindings ++ [v] }

def remove (st : State) (name : List Char) : State :=
  { st with bindings := st.bindings.filter fun v => v.name != name }

def isFixed (st : State) (name : List Char) : Bool :=
  (st.find? name).any Variable.fixed

/-- Gives a variable a value; it stays exported if it was. The place of `getopts` follows its own
variable, and what was found with another path is forgotten. -/
def set (st : State) (name value : List Char) : State :=
  let old := st.find? name
  let exported := st.has .allexport || old.any Variable.exported
  let st := st.put ⟨name, some value, exported, old.any Variable.fixed⟩
  if name == "PATH".toList then { st with tracked := [] }
  else if name == "OPTIND".toList then
    let digits := value.takeWhile Char.isDigit
    let n := digits.foldl (fun n c => n * 10 + (c.toNat - 48)) 0
    { st with optionIndex := if n = 0 then 1 else n, optionOffset := none }
  else st

/-- The variables that stay known to the shell when they have no value. -/
def isStanding (name : List Char) : Bool :=
  ["IFS", "OPTIND", "PATH", "PS1", "PS2", "PS4"].contains (String.ofList name)

def unset (st : State) (name : List Char) : State :=
  match st.find? name with
  | some v =>
    let st := if name == "PATH".toList then { st with tracked := [] } else st
    if isStanding name then st.put { v with value := none } else st.remove name
  | none => st

def «export» (st : State) (name : List Char) : State :=
  match st.find? name with
  | some v => st.put { v with exported := true }
  | none => st.put ⟨name, none, true, false⟩

def fix (st : State) (name : List Char) : State :=
  match st.find? name with
  | some v => st.put { v with fixed := true }
  | none => st.put ⟨name, none, false, true⟩

/-- Remembers a variable for the end of what is local. -/
def remember (st : State) (name : List Char) : State :=
  match st.locals with
  | frame :: rest => { st with locals := (.var name (st.find? name) :: frame) :: rest }
  | [] => st

/-- Gives back what was remembered last. -/
def forget (st : State) : State :=
  match st.locals with
  | [] => st
  | frame :: rest =>
    let back := frame.foldl
      (fun (st : State) saved =>
        match saved with
        | .var _ (some v) =>
          let put := st.put v
          if v.name == "OPTIND".toList then (put.set v.name (v.value.getD [])).put v
          else if v.name == "PATH".toList then { put with tracked := [] }
          else put
        | .var name none => st.remove name
        | .flags flags => { st with flags })
      st
    { back with locals := rest }

def separators (st : State) : List Char :=
  (st.get? ['I', 'F', 'S']).getD [' ', '\t', '\n']

def environment (st : State) : List (List Char × List Char) :=
  st.bindings.filterMap fun v => if v.exported then v.value.map fun value => (v.name, value) else none

def path (st : State) : List Char :=
  (st.get? "PATH".toList).getD []

def push (st : State) (task : Task) : State :=
  { st with stack := task :: st.stack }

def pushAll (st : State) (tasks : List Task) : State :=
  { st with stack := tasks ++ st.stack }

def withStatus (st : State) (status : Nat) : State :=
  { st with status }

def currentLine (st : State) : Nat :=
  (st.stack.findSome? fun
    | .script input .. | .scriptRan input .. | .listen input => some input.line
    | _ => none).getD st.readLine

def messageLine (st : State) (text : List Char) : List Char :=
  let speaker := st.speaker.elim [] fun name => name ++ [':', ' ']
  st.zero ++ [':', ' '] ++ (toString st.line).toList ++ [':', ' '] ++ speaker ++ text ++ ['\n']

def Task.writes : Task → Bool
  | .write .. => true
  | _ => false

def Task.isOutput : Task → Bool
  | .write 1 .. => true
  | _ => false

/-- The shell has something to write. The standard output comes last. -/
def emit (st : State) (fd : Nat) (text name : List Char) : State :=
  let before := st.stack.takeWhile Task.writes
  let rest := st.stack.dropWhile Task.writes
  let task := Task.write fd (toBytes text) name
  if text.isEmpty then st
  else if fd = 1 then { st with stack := before ++ task :: rest }
  else { st with stack := before.filter (!Task.isOutput ·) ++ task :: before.filter Task.isOutput ++ rest }

def report (st : State) (text : List Char) : State :=
  st.emit 2 text []

def complain (st : State) (text : List Char) : State :=
  st.report (st.messageLine text)

def say (st : State) (text : List Char) : State :=
  st.emit 1 text (st.speaker.getD [])

end State

/-! ### Leaving commands -/

namespace Task

def cleans : Task → Bool
  | .restore _ | .endLocals | .leave .. => true
  | _ => false

def isLoop : Task → Bool
  | .loopTest .. | .loopNext .. | .each .. => true
  | _ => false

end Task

namespace State

def loopCount (st : State) : Nat :=
  go st.stack
where
  go : List Task → Nat
    | [] => st.outerLoops
    | .leave .. :: _ => 0
    | task :: rest => if task.isLoop then go rest + 1 else go rest

/-- The shell has to end; what was redirected or local is given back before. -/
def quit (st : State) (status : Nat) : State :=
  { st with
    outputs := []
    speaker := none
    stack := st.stack.filter Task.cleans ++ [.exit status] }

def leaveGuarded : List Task → Option (List Task)
  | [] => none
  | .endBuiltin name true :: rest => some (.endBuiltin name true :: rest)
  | task :: rest =>
    match leaveGuarded rest with
    | some stack =>
      match task with
      | .endBuiltin .. => some (task :: stack)
      | task => some (if task.cleans then task :: stack else stack)
    | none => none

/-- A fault has come up whose message has been written. What is to be written is not left out. -/
def fails (st : State) (status : Nat) : State :=
  let writes := st.stack.takeWhile Task.writes
  let st := { st with outputs := [], status }
  match leaveGuarded st.stack with
  | some stack => { st with stack := writes ++ stack }
  | none => ({ st with kept := none }.quit status).pushAll writes

def dies (st : State) (text : List Char) : State :=
  (st.fails 2).report (st.messageLine text)

def diesAt (st : State) (line : Nat) (text : List Char) : State :=
  { st with line }.dies text

end State

end PartyBridge.Shell
