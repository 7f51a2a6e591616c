import PartyBridge.Host.Program
import PartyBridge.Shell.Jobs

/-!
# Shells start processes

A shell forks copies of itself and starts programs; it may also become a program. A file that names no
program which runs it is run by a shell.
-/

namespace PartyBridge.Shell

open Host (Machine Errno Fd Body)

/-- How long a forked process takes until its first step, in nanoseconds. -/
def forkDelay : Nat := 100000

/-! ### Copies of the shell -/

namespace State

def hasTraps (st : State) : Bool :=
  st.traps.any fun (_, action) => !action.isEmpty

def forked (st : State) (stack : List Task) : State :=
  { st with
    traps := st.traps.filter fun (_, action) => action.isEmpty
    caught := []
    outputs := []
    jobs := []
    jobOrder := []
    readLine := st.currentLine
    outerLoops := st.loopCount
    stack }

end State

def forkShell (m : Machine) (pid : Nat) (st : State) (slot : Nat) (child : State) : Machine × State × Nat :=
  let (m, childPid) := m.fork pid (.shell child) forkDelay
  (m, st.addProcess slot childPid, childPid)

/-- Makes a forked shell one of the background: it does not heed the keyboard, and unless it reads from a
pipe it has nothing to read. -/
def putBehind (m : Machine) (child : Nat) (reads : Bool) : Machine :=
  let m := m.update child fun p =>
    let body := match p.body with
      | .shell st => Body.shell { st with ignored := 2 :: 3 :: st.ignored }
      | body => body
    { p with ignored := 2 :: 3 :: p.ignored, body }
  if reads then m
  else
    match m.openPath [] [] (Utf8.encode "/dev/null") .read with
    | .ok (m, fd) => m.setFd child 0 fd
    | .error _ => m.closeFd child 0

/-- Starts the commands of a pipeline; each reads what the one before it writes. -/
def startPipeline (pid slot : Nat) (mode : Mode) (behind : Bool) :
    Machine → State → List Command → Option Fd → Machine × State
  | m, st, [], _ => (m, st)
  | m, st, command :: rest, input =>
    let (m, output) :=
      if rest.isEmpty then (m, none)
      else
        let (m, index) := m.newPipe
        (m, some index)
    let (m, st, child) := forkShell m pid st slot (st.forked [.eval command { mode with final := true }])
    let m := if behind then putBehind m child input.isSome else m
    let m := input.elim m (m.setFd child 0)
    let m := output.elim m fun index => m.setFd child 1 (.writeEnd index)
    let st := if behind then { st with lastChild := some child } else st
    startPipeline pid slot mode behind m st rest (output.map .readEnd)

/-- Starts a command whose output a word needs. The state of the command is given. -/
def startSubstitution (m : Machine) (pid : Nat) (st inner : State) (body : Command) : Machine :=
  let (m, index) := m.newPipe
  let (st, slot) := st.newJob
  let (m, st, child) := forkShell m pid st slot (inner.forked [.eval body ⟨false, true⟩])
  let m := m.setFd child 1 (.writeEnd index)
  let fd := m.freeFd pid privateFd
  (m.setFd pid fd (.readEnd index)).setBody pid (.shell (st.push (.collect fd slot [])))

/-! ### Programs -/

/-- Runs the file at a path; a file without a program of its own is run by a shell. -/
def launchPath (m : Machine) (pid : Nat) (path : Bytes) (argv : List Bytes) : Except Errno Host.Launch :=
  let cwd := cwdOf m pid
  let shell := Utf8.encode "/bin/sh"
  match Host.launchAt m.tree cwd path (argv.headD []) (argv.drop 1) with
  | .error .notExecutable => Host.launchAt m.tree cwd shell shell (path :: argv.drop 1)
  | r => r

/-- Tries paths in order; the last fault is told that is more than a missing file. -/
def launchPaths (m : Machine) (pid : Nat) (argv : List Bytes) : Errno → List Bytes → Except Errno Host.Launch
  | e, [] => .error e
  | e, path :: rest =>
    match launchPath m pid path argv with
    | .ok l => .ok l
    | .error .noEntry | .error .notDirectory => launchPaths m pid argv e rest
    | .error e => launchPaths m pid argv e rest

/-- Finds the program that a command names. The first directories of the path are passed over. -/
def launchCommand (m : Machine) (pid : Nat) (path : List Char) (skip : Nat) (argv : List (List Char)) :
    Except Errno Host.Launch :=
  let name := argv.headD []
  let bytes := argv.map toBytes
  if name.contains '/' then launchPath m pid (toBytes name) bytes
  else launchPaths m pid bytes .noEntry ((programPaths path name).drop skip)

def launchStatus (e : Errno) : Nat :=
  match e with
  | .tooManyLinks | .nameTooLong | .noEntry | .notDirectory => 127
  | _ => 126

/-- The process becomes a program; the descriptors of the shell itself are closed. -/
def become (m : Machine) (pid start : Nat) (st : State) (l : Host.Launch) : Machine :=
  match m.process? pid with
  | none => m
  | some p =>
    let body := Host.programBody m ⟨pid, p.parent, p.cwd, st.environment, p.ignored, start⟩ l
    m.update pid fun p => { p with body, fds := p.fds.filter fun (n, _) => n < privateFd }

def State.exits (st : State) (status : Nat) (text : List Char) : State :=
  (st.quit status).report (st.messageLine text)

def becomeCommand (m : Machine) (pid : Nat) (st : State) (path : List Char) (skip : Nat)
    (argv : List (List Char)) : Machine :=
  match launchCommand m pid path skip argv with
  | .ok l => become m pid m.clock st l
  | .error e => m.setBody pid (.shell (st.exits (launchStatus e) (programFault (argv.headD []) e)))

def startCommand (m : Machine) (pid : Nat) (st : State) (slot : Nat) (path : List Char) (skip : Nat)
    (argv : List (List Char)) : Machine × State :=
  let failing (e : Errno) : State :=
    (st.forked [.finish (launchStatus e)]).complain (programFault (argv.headD []) e)
  match launchCommand m pid path skip argv with
  | .ok l =>
    let (m, st, child) := forkShell m pid st slot (st.forked [])
    (become m child (m.clock + forkDelay) st l, st)
  | .error e =>
    let (m, st, _) := forkShell m pid st slot (failing e)
    (m, st)

end PartyBridge.Shell
