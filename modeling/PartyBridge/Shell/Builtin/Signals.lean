import PartyBridge.Shell.Builtin.Arguments
import PartyBridge.Shell.Jobs

/-!
# Builtins for signals
-/

namespace PartyBridge.Shell

open Host (Machine signalWord signalNumber? signalOfDigits?)

/-! ### Traps -/

/-- Sets what is done on a signal; nothing to do means that it is ignored. A signal that was ignored
before the shell started stays so. -/
def setTrap (m : Machine) (pid : Nat) (st : State) (action : Option (List Char)) (n : Nat) : Machine × State :=
  let others := st.traps.filter fun (k, _) => k != n
  let traps := action.elim others fun text => (n, text) :: others
  let m :=
    if n = 0 || st.ignored.contains n then m
    else
      m.update pid fun p =>
        let ignored := p.ignored.filter (· != n)
        { p with ignored := if action == some [] then n :: ignored else ignored }
  (m, { st with traps })

/-- Sets what is done on signals up to one that is not known. -/
def setTraps (m : Machine) (pid : Nat) (st : State) (action : Option (List Char)) :
    List (List Char) → Machine × State
  | [] => (m, st)
  | name :: names =>
    match signalNumber? 0 name with
    | some n =>
      let (m, st) := setTrap m pid st action n
      setTraps m pid st action names
    | none =>
      let text := "trap: ".toList ++ name ++ ": bad trap\n".toList
      (m, (st.withStatus 1).report text)

def trapAll (m : Machine) (pid : Nat) (st : State) (args : List (List Char)) : Machine × State :=
  match plainOptions "" args with
  | .error text => (m, st.dies text)
  | .ok g =>
    let st := st.withStatus 0
    match g.operands with
    | [] =>
      let sorted := st.traps.mergeSort fun a b => a.1 ≤ b.1
      let text := sorted.flatMap fun (n, action) =>
        "trap -- ".toList ++ singleQuoted action ++ ' ' :: (signalWord n).toList ++ ['\n']
      (m, st.say text)
    | action :: names =>
      if names.isEmpty || (signalOfDigits? action).isSome then setTraps m pid st none g.operands
      else setTraps m pid st (if action == ['-'] then none else some action) names

/-! ### Sending signals -/

inductive KillRequest where
  | send (signal : Nat) (targets : List (List Char))
  | list (status : Option (List Char))
deriving Repr, DecidableEq

def killUsage : List Char :=
  ("Usage: kill [-s sigspec | -signum | -sigspec] [pid | job]... or\n" ++ "kill -l [exitstatus]").toList

/-- Signals that are named by options, the last one last. -/
def optionSignal (g : Given) : Except (List Char) (Option Nat) :=
  g.options.foldlM
    (fun signal (c, name) =>
      if c == 's' then
        match signalNumber? 1 name with
        | some n => .ok (some n)
        | none => .error ("invalid signal number or name: ".toList ++ name)
      else .ok signal)
    none

def killRequest (args : List (List Char)) : Except (List Char) KillRequest := do
  let request (signal : Option Nat) (lists : Bool) (rest : List (List Char)) : Except (List Char) KillRequest :=
    if lists then
      if signal.isSome && !rest.isEmpty then .error killUsage else .ok (.list rest.head?)
    else if rest.isEmpty then .error killUsage
    else .ok (.send (signal.getD Host.sigTerm) rest)
  match args with
  | [] => .error killUsage
  | first :: rest =>
    match first with
    | '-' :: name =>
      match signalNumber? 1 name with
      | some n => request (some n) false rest
      | none =>
        let takes (c : Char) : Option Bool := if c == 'l' then some false else if c == 's' then some true else none
        let g ← readOptions takes (args.length + 1) args
        request (← optionSignal g) (g.has 'l') g.operands
    | _ => request none false args

/-- The names of all signals, or of the one that has ended a command with a status. -/
def signalList : Option (List Char) → Except (List Char) (List Char)
  | none =>
    .ok ('0' :: '\n' :: (List.range' 1 (Host.signalCount - 1)).flatMap fun n => (signalWord n).toList ++ ['\n'])
  | some text => do
    let n ← numberOf text
    let n := if 128 < n then n - 128 else n
    if 0 < n && n < Host.signalCount then return (signalWord n).toList ++ ['\n']
    else .error ("invalid signal number or exit status: ".toList ++ text)

/-- Whom an argument of `kill` names: a process, or a group. -/
def killTarget (st : State) (target : List Char) : Except (List Char) (Nat × Bool) :=
  match target with
  | '%' :: _ => do
    let slot ← st.namedJob (some target)
    let first := (st.job? slot).bind fun job => job.processes.head?
    return (first.elim 0 Prod.fst, true)
  | '-' :: digits => (numberOf digits).map fun n => (n, n != 0)
  | digits => (numberOf digits).map fun n => (n, false)

def shellOf (m : Machine) (pid : Nat) : Option State :=
  match (m.process? pid).map Host.Process.body with
  | some (.shell st) => some st
  | _ => none

/-- Sends a signal to targets in turn. The shell may be among them. -/
def killEach (pid signal : Nat) : Machine → List (List Char) → Machine
  | m, [] => m
  | m, target :: targets =>
    match shellOf m pid with
    | none => m
    | some st =>
      match killTarget st target with
      | .error text => m.setBody pid (.shell (st.dies text))
      | .ok (n, isGroup) =>
        let (after, known) :=
          if isGroup then m.signalGroup n signal
          else if n = 0 then m.signalGroup ((m.process? pid).elim 0 Host.Process.group) signal
          else (m.signal n signal, (m.process? n).isSome)
        let after :=
          if known then after
          else after.setBody pid (.shell ((st.withStatus 1).complain "No such process\n".toList))
        killEach pid signal after targets

def killAll (m : Machine) (pid : Nat) (st : State) (args : List (List Char)) : Machine :=
  let commit (st : State) : Machine := m.setBody pid (.shell st)
  match killRequest args with
  | .error text => commit (st.dies text)
  | .ok (.list status) =>
    match signalList status with
    | .error text => commit (st.dies text)
    | .ok text => commit ((st.withStatus 0).say text)
  | .ok (.send signal targets) => killEach pid signal (commit (st.withStatus 0)) targets

end PartyBridge.Shell
