import PartyBridge.Host.Machine

/-!
# Jobs

Processes that a shell has started together are a job. A job keeps its number until somebody has waited
for it; then the number may be given to another one.
-/

namespace PartyBridge.Shell

open Engine (Exit)
open Host (Machine)

/-! ### The table of jobs -/

namespace State

def job? (st : State) (slot : Nat) : Option Job :=
  st.jobs[slot]?.join

def freeJob (st : State) (slot : Nat) : State :=
  { st with jobs := st.jobs.set slot none, jobOrder := st.jobOrder.filter (· != slot) }

def setJob (st : State) (slot : Nat) (job : Job) : State :=
  { st with jobs := st.jobs.set slot (some job) }

/-- A new job without processes, at the first number that is free. -/
def newJob (st : State) : State × Nat :=
  let free (job : Option Job) : Bool := job.all fun job => job.isDone && job.waited
  let slot := (st.jobs.findIdx? free).getD st.jobs.length
  let st := st.freeJob slot
  let jobs := if slot = st.jobs.length then st.jobs ++ [none] else st.jobs
  ({ st with jobs := jobs.set slot (some ⟨[], false⟩), jobOrder := slot :: st.jobOrder }, slot)

def addProcess (st : State) (slot pid : Nat) : State :=
  match st.job? slot with
  | some job => st.setJob slot { job with processes := job.processes ++ [(pid, none)] }
  | none => st

/-- A process has ended; tells to which job it belongs. -/
def noteExit (st : State) (pid : Nat) (exit : Exit) : State × Option Nat :=
  let holds (slot : Nat) : Bool :=
    (st.job? slot).any fun job => !job.isDone && job.processes.any fun (p, _) => p == pid
  match st.jobOrder.find? holds with
  | none => (st, none)
  | some slot =>
    match st.job? slot with
    | none => (st, none)
    | some job =>
      let processes := job.processes.map fun (p, old) => if p == pid then (p, some exit) else (p, old)
      (st.setJob slot { job with processes }, some slot)

end State

def endedBySignal (exit : Exit) : List Char :=
  match exit.code, exit.signal with
  | none, some signal => (Host.signalText signal.toNat).toList
  | _, _ => []

/-- What is said of a process of a job that is waited for: nothing of some signals. -/
def notice (exit : Exit) : List Char :=
  if exit.code.isNone && (exit.signal == some 2 || exit.signal == some 13) then []
  else
    match endedBySignal exit with
    | [] => []
    | text => text ++ ['\n']

/-- The children of a process that are known to have ended, the oldest first, with how they did. -/
def endedChildren (m : Machine) (pid : Nat) : List (Nat × Exit) :=
  m.processes.filterMap fun p =>
    match p.body with
    | .ended exit => if p.parent == pid && p.start ≤ m.clock then some (p.pid, exit) else none
    | _ => none

/-- Notes all children that have ended. Gives what is said of those of the job that is waited for, and
whether there were any. -/
def reapChildren (m : Machine) (pid : Nat) (st : State) (awaited : Option Nat) :
    Machine × State × List Char × Bool :=
  let ended := endedChildren m pid
  let (m, st, said) := ended.foldl
    (fun (m, st, said) (child, exit) =>
      let (st, slot) := State.noteExit st child exit
      (Machine.reap m child, st, if slot.isSome && slot == awaited then said ++ notice exit else said))
    (m, st, ([] : List Char))
  (m, st, said, !ended.isEmpty)

/-! ### Showing and naming jobs -/

namespace State

def showJob (st : State) (slot : Nat) (job : Job) (withPid onlyPid : Bool) : List Char :=
  let number (n : Nat) : List Char := (toString n).toList
  let pids := job.processes.map fun (pid, _) => number pid
  if onlyPid then pids.headD [] ++ ['\n']
  else
    let mark :=
      if st.jobOrder[0]? == some slot then '+' else if st.jobOrder[1]? == some slot then '-' else ' '
    let front := '[' :: number (slot + 1) ++ [']', ' ', mark, ' ']
    let state :=
      if !job.isDone then "Running".toList
      else
        match job.processes.getLast? with
        | some (_, some exit) =>
          match exit.code with
          | some 0 => "Done".toList
          | some code => "Done(".toList ++ number code.toNat ++ [')']
          | none => endedBySignal exit
        | _ => []
    let padded (text : List Char) : List Char := text ++ List.replicate (max 1 (33 - text.length)) ' '
    if withPid then
      let first := padded (front ++ pids.headD [] ++ ' ' :: state)
      let indent := List.replicate front.length ' '
      let others := (pids.drop 1).flatMap fun pid => " |\n".toList ++ padded (indent ++ pid ++ [' '])
      first ++ others ++ ['\n']
    else padded (front ++ state) ++ (pids.drop 1).flatMap (fun _ => " | ".toList) ++ ['\n']

/-- The job that a name leads to: by its number, or as the current or the previous one. `none` asks for
the current one. -/
def namedJob (st : State) (name : Option (List Char)) : Except (List Char) Nat :=
  let current : Except (List Char) Nat :=
    match st.jobOrder[0]? with
    | some slot => .ok slot
    | none => .error "No current job".toList
  let unknown (name : List Char) : Except (List Char) Nat := .error ("No such job: ".toList ++ name)
  match name with
  | none | some ['%'] | some ['%', '+'] | some ['%', '%'] => current
  | some ['%', '-'] =>
    match st.jobOrder[1]? with
    | some slot => .ok slot
    | none => .error "No previous job".toList
  | some ('%' :: rest) =>
    let name := '%' :: rest
    let n := rest.foldl (fun n c => n * 10 + (c.toNat - 48)) 0
    if rest.all Char.isDigit && 0 < n && n ≤ st.jobs.length then
      if (st.job? (n - 1)).isSome then .ok (n - 1) else unknown name
    else if rest == ['?'] then
      match st.jobOrder with
      | [] => unknown name
      | [slot] => .ok slot
      | _ => .error (name ++ ": ambiguous".toList)
    else unknown name
  | some name => unknown name

end State

end PartyBridge.Shell
