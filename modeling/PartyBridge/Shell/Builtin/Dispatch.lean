import PartyBridge.Shell.Builtin.Control
import PartyBridge.Shell.Builtin.Place
import PartyBridge.Shell.Builtin.Signals
import PartyBridge.Shell.Launch
import PartyBridge.Shell.Test

/-!
# Commands of the shell itself

A builtin changes the shell or the machine, and leaves tasks for what it writes, runs or waits for.
-/

namespace PartyBridge.Shell

open Host (Machine Node)

/-! ### Files and conditions -/

/-- What a path leads to for a process. A device that stands for a descriptor leads to what that
does. -/
def nodeAt (m : Machine) (pid : Nat) (path : List Char) : Option (Host.Path × Node) :=
  match m.tree.find (cwdOf m pid) (toBytes path) with
  | .ok (.node place (.device (.descriptor n))) =>
    match m.fd? pid n with
    | none => none
    | some (.file index) =>
      match (m.opened[index]?).map Host.OpenFile.target with
      | some (.file data) => some (place, .file data)
      | some .directory => some (place, .directory)
      | _ => some (place, .device .null)
    | some _ => some (place, .device (.descriptor n))
  | .ok (.node place node) => some (place, node)
  | _ => none

def fileProperty (m : Machine) (pid : Nat) (op : Char) (path : List Char) : Bool :=
  match op, nodeAt m pid path with
  | 'L', _ | 'h', _ =>
    match m.tree.look false (cwdOf m pid) (toBytes path) with
    | .ok (.node _ (.link _)) => true
    | _ => false
  | 'e', node | 'r', node | 'w', node | 'O', node | 'G', node => node.isSome
  | 'f', some (_, .file _) | 'f', some (_, .tool _) => true
  | 'd', some (_, .directory) => true
  | 'p', some (_, .device (.descriptor _)) => true
  | 'c', some (_, .device (.descriptor _)) => false
  | 'c', some (_, .device _) => true
  | 'x', some (_, .directory) | 'x', some (_, .tool _) => true
  | 'x', some (_, .file index) => m.tree.executable index
  | 's', some (_, .file index) => (m.tree.contents index).size != 0
  | 's', some (_, .directory) | 's', some (_, .tool _) => true
  | _, _ => false

def fileFacts (m : Machine) (pid : Nat) : FileFacts where
  property := fileProperty m pid
  newer a b :=
    match nodeAt m pid a, nodeAt m pid b with
    | some (_, .file x), some (_, .file y) => decide (m.tree.changed y < m.tree.changed x)
    | _, _ => false
  same a b :=
    match nodeAt m pid a, nodeAt m pid b with
    | some (_, .file x), some (_, .file y) => x == y
    | some (p, _), some (q, _) => p == q
    | _, _ => false

/-- `test` and `[`. -/
def testAll (m : Machine) (pid : Nat) (st : State) (bracket : Bool) (args : List (List Char)) : State :=
  let closed := !bracket || args.getLast?.any fun last => last.head? == some ']'
  if !closed then st.dies "missing ]".toList
  else
    match testValue (fileFacts m pid) false (if bracket then args.dropLast else args) with
    | .ok value => st.withStatus (if value then 0 else 1)
    | .error text => st.dies text

/-- The file whose commands are run, and the name under which it speaks. -/
def sourceFile (m : Machine) (pid : Nat) (st : State) (name : List Char) :
    Except (List Char) (List Char × List Char) :=
  let cwd := cwdOf m pid
  let path :=
    if name.contains '/' then some (toBytes name)
    else (programPaths st.path name).find? fun path => m.tree.isRegular cwd path
  match path with
  | none => .error (name ++ ": not found".toList)
  | some path =>
    match m.openPath cwd ((m.process? pid).elim [] Host.Process.fds) path .read with
    | .error e => .error (openFault false (ofBytes path) e)
    | .ok _ =>
      .ok (ofBytes path, (m.tree.regular? cwd path).elim [] fun index => scriptText (m.tree.contents index))

/-- `.` -/
def runFile (m : Machine) (pid : Nat) (st : State) (args : List (List Char)) : State :=
  match plainOptions "" args with
  | .error text => st.dies text
  | .ok g =>
    match g.operands with
    | [] => st.withStatus 0
    | name :: _ =>
      match sourceFile m pid st name with
      | .error text => st.dies text
      | .ok (name, text) =>
        { st with speaker := some name }.push (.script (.ofText text) .file false 0)

/-! ### Jobs -/

/-- `jobs`. A job that has ended is forgotten when it has been shown. -/
def showJobs (m : Machine) (pid : Nat) (st : State) (args : List (List Char)) : Machine × State :=
  match plainOptions "lp" args with
  | .error text => (m, st.dies text)
  | .ok g =>
    let (m, st, _) := reapChildren m pid st none
    let last := (g.options.getLast?).map Prod.fst
    let shown (st : State) (slot : Nat) : State :=
      match st.job? slot with
      | none => st
      | some job =>
        let st := st.say (st.showJob slot job (last == some 'l') (last == some 'p'))
        if job.isDone && last != some 'p' then st.freeJob slot else st
    let st := st.withStatus 0
    if g.operands.isEmpty then (m, st.jobOrder.foldl shown st)
    else (m, st.forEach (fun st name => (st.namedJob (some name)).map (shown st)) g.operands)

/-- `fg` and `bg`, which need job control. -/
def State.resumeJob (st : State) (args : List (List Char)) : State :=
  match plainOptions "" args with
  | .error text => st.dies text
  | .ok g =>
    let name := g.operands.head?
    match st.namedJob name with
    | .error text => st.dies text
    | .ok _ =>
      st.dies ("job ".toList ++ name.getD "(null)".toList ++ " not created under job control".toList)

/-- `wait`. -/
def State.awaitAll (st : State) (args : List (List Char)) : State :=
  match plainOptions "" args with
  | .error text => st.dies text
  | .ok g =>
    if g.operands.isEmpty then st.push (.awaitJobs [] true none 0)
    else st.push (.awaitJobs g.operands false none 127)

/-! ### Reading, writing and limits -/

/-- `read`. -/
def State.readInto (st : State) (args : List (List Char)) : State :=
  let takes (c : Char) : Option Bool := if c == 'r' then some false else if c == 'p' then some true else none
  match readOptions takes (args.length + 1) args with
  | .error text => st.dies text
  | .ok g =>
    if g.operands.isEmpty then st.dies "arg count".toList
    else st.push (.read ⟨g.operands, g.has 'r', [], 0, 0, [], none⟩)

def State.printf (st : State) (args : List (List Char)) : State :=
  match plainOptions "" args with
  | .error text => st.dies text
  | .ok g =>
    match g.operands with
    | [] => st.dies "usage: printf format [arg ...]".toList
    | format :: args =>
      let (text, complaints, status) := printfText format args
      (complaints.foldl complain (st.withStatus status)).say text

/-- `ulimit`. Nothing is limited. -/
def State.limits (st : State) (args : List (List Char)) : State :=
  match plainOptions "HSatfdsmclpnvwr" args with
  | .error text => st.dies text
  | .ok g =>
    match g.operands with
    | [] => (st.withStatus 0).say "unlimited\n".toList
    | [value] =>
      if value == "unlimited".toList || (!value.isEmpty && value.all Char.isDigit) then st.withStatus 0
      else st.dies "bad number".toList
    | _ => st.dies "too many arguments".toList

/-! ### Becoming programs -/

/-- Redirections of the command that runs are meant to last. -/
def keepRedirections (m : Machine) (pid : Nat) (st : State) : Machine × State :=
  match st.stack with
  | a :: .restore saved :: rest => (dropFds m pid saved, { st with stack := a :: rest })
  | a :: b :: .restore saved :: rest =>
    match b with
    | .endLocals => (dropFds m pid saved, { st with stack := a :: b :: rest })
    | _ => (m, st)
  | _ => (m, st)

/-- `exec`. -/
def execute (m : Machine) (pid : Nat) (st : State) (args : List (List Char)) : Machine :=
  if args.isEmpty then
    let (m, st) := keepRedirections m pid st
    m.setBody pid (.shell (st.withStatus 0))
  else becomeCommand m pid st st.path 0 args

/-! ### All builtins -/

/-- Runs a builtin. The stack is what follows it; `tested` tells that its failure is looked at. -/
def runBuiltin (m : Machine) (pid : Nat) (st : State) (tested : Bool) (name : List Char)
    (args : List (List Char)) : Machine :=
  let cwd := cwdOf m pid
  let commit (st : State) : Machine := m.setBody pid (.shell st)
  let commitBoth : Machine × State → Machine := fun (m, st) => m.setBody pid (.shell st)
  let ok := st.withStatus 0
  match String.ofList name with
  | "." => commit (runFile m pid st args)
  | "[" => commit (testAll m pid st true args)
  | "test" => commit (testAll m pid st false args)
  | "alias" => commit (st.aliasAll args)
  | "unalias" => commit (st.unaliasAll args)
  | "bg" | "fg" => commit (st.resumeJob args)
  | "break" => commit (st.leaveLoop false args)
  | "continue" => commit (st.leaveLoop true args)
  | "cd" | "chdir" => commitBoth (changePlace m pid st args)
  | "command" => commit (st.describeOne m.tree cwd args)
  | "echo" => commit (ok.say (echoText args))
  | "eval" => commit (st.evalText tested args)
  | "exec" => execute m pid st args
  | "exit" => commit (st.exitWith args)
  | "export" => commit (ok.markAll false args)
  | "readonly" => commit (ok.markAll true args)
  | "false" => commit (st.withStatus 1)
  | "getopts" => commit (st.getOption args)
  | "hash" => commit (st.trackAll m.tree cwd args)
  | "jobs" => commitBoth (showJobs m pid st args)
  | "kill" => killAll m pid st args
  | "local" => commit (ok.localAll args)
  | "printf" => commit (st.printf args)
  | "pwd" => commit (showPlace m pid st args)
  | "read" => commit (st.readInto args)
  | "return" => commit (st.returnFrom args)
  | "set" => commit (ok.setAll args)
  | "shift" => commit (ok.shift args)
  | "times" => commit (ok.say "0m0.000000s 0m0.000000s\n0m0.000000s 0m0.000000s\n".toList)
  | "trap" => commitBoth (trapAll m pid st args)
  | "type" => commit (st.describeAll m.tree cwd args)
  | "ulimit" => commit (st.limits args)
  | "umask" => commit (st.fileMask args)
  | "unset" => commit (ok.unsetAll args)
  | "wait" => commit (st.awaitAll args)
  | _ => commit ok

end PartyBridge.Shell
