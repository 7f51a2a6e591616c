import PartyBridge.Shell.Step

/-!
# Running processes

Processes take turns. In a turn a process takes steps until it has to wait or its share is used up;
time passes by the longest turn of a round. When nobody can take a step the clock moves to the next
moment at which somebody can.
-/

namespace PartyBridge.Host

/-- How long a step takes, in nanoseconds. -/
def stepTime : Nat := 100

def share : Nat := 200

namespace Machine

/-! ### Tools -/

/-- How a request of a tool ends: with an answer, with another request that takes its place, with the end
of the process, or not yet. -/
inductive Performed where
  | answered (m : Machine) (answer : Tool.Answer)
  | goesOn (m : Machine) (ask : Tool.Ask)
  | ended (m : Machine)
  | waits

/-- A tool writes; nobody to read it ends the process unless it ignores the signal for that. -/
def performWrite (m : Machine) (pid fd : Nat) (bytes : Bytes) : Performed :=
  if bytes.isEmpty then
    .answered m (if (m.fd? pid fd).isSome then .done else .failed .badDescriptor)
  else
    match m.write pid fd bytes with
    | (m, .wrote n) =>
      let rest := bytes.drop n
      if rest.isEmpty then .answered m .done else .goesOn m (.write fd rest)
    | (_, .wait) => .waits
    | (m, .refused .brokenPipe) =>
      let m := m.signal pid sigPipe
      if m.alive pid then .answered m (.failed .brokenPipe) else .ended m
    | (m, .refused e) => .answered m (.failed e)

def performOpen (m : Machine) (p : Process) (path : Bytes) (purpose : Tool.Purpose) : Performed :=
  let access := match purpose with
    | .read => Access.read
    | .write => .write
  match m.openPath p.cwd p.fds path access with
  | .error e => .answered m (.failed e)
  | .ok (m, fd) =>
    let n := m.freeFd p.pid 3
    .answered (m.setFd p.pid n fd) (.opened n)

def giveBack (m : Machine) (pid fd count : Nat) : Machine :=
  match m.fd? pid fd with
  | some (.file index) =>
    match m.opened[index]? with
    | some f =>
      match f.target with
      | .file _ => m.setOpened index { f with offset := f.offset - count }
      | _ => m
    | none => m
  | _ => m

def replaceFile (m : Machine) (cwd : Path) (path contents : Bytes) : Machine :=
  match m.tree.find cwd path with
  | .ok (.node place (.file index)) =>
    let tree := m.tree.putFile place ⟨contents.toArray⟩ (m.tree.executable index)
    { m with tree := tree.touch m.tree.files.size m.clock }
  | _ => m

def perform (m : Machine) (p : Process) (ask : Tool.Ask) : Performed :=
  match ask with
  | .more => .answered m .done
  | .read fd size =>
    match m.read p.pid fd size with
    | (m, .data bytes) => .answered m (.data bytes)
    | (m, .eof) => .answered m .eof
    | (_, .wait) => .waits
    | (m, .refused e) => .answered m (.failed e)
  | .write fd bytes => m.performWrite p.pid fd bytes
  | .open path purpose => m.performOpen p path purpose
  | .close fd => .answered (m.closeFd p.pid fd) .done
  | .giveBack fd count => .answered (m.giveBack p.pid fd count) .done
  | .replace path contents => .answered (m.replaceFile p.cwd path contents) .done
  | .exit code => .ended (m.finish p.pid (.ofCode ((code % 256 : Nat) : Int)))

def stepTool (m : Machine) (p : Process) (r : Tool.Running) (ask : Tool.Ask) : Option Machine :=
  match m.perform p ask with
  | .waits => none
  | .ended m => some m
  | .goesOn m ask => some (m.setBody p.pid (.tool r ask))
  | .answered m answer =>
    let (r, ask) := r.step answer
    some (m.setBody p.pid (.tool r ask))

/-! ### Processes -/

/-- One step of a process. Nothing if it has to wait or has ended. -/
def step (m : Machine) (pid : Nat) : Option Machine :=
  match m.process? pid with
  | none => none
  | some p =>
    if m.clock < p.start || p.halted.isSome then none
    else
      match p.body with
      | .ended _ => none
      | .shell st => Shell.stepShell m pid st
      | .sleep wake => if wake.any (· ≤ m.clock) then some (m.finish pid (.ofCode 0)) else none
      | .tool r ask => m.stepTool p r ask

def turn (pid : Nat) : Nat → Nat → Machine → Machine × Nat
  | 0, taken, m => (m, taken)
  | left + 1, taken, m =>
    match m.step pid with
    | none => (m, taken)
    | some m => turn pid left (taken + 1) m

/-- A turn for every process; tells whether anybody took a step. -/
def round (m : Machine) : Machine × Bool :=
  let (after, longest) := (m.processes.map Process.pid).foldl
    (fun (m, longest) pid =>
      let (m, taken) := turn pid share 0 m
      (m, max longest taken))
    (m, 0)
  ({ after with clock := after.clock + longest * stepTime }, 0 < longest)

def nextMoment? (m : Machine) : Option Nat :=
  let moments := m.processes.flatMap fun p =>
    match p.body, p.halted with
    | .ended _, _ => [p.start]
    | _, some _ => []
    | .sleep wake, none => if p.start ≤ m.clock then wake.toList else [p.start]
    | _, none => [p.start]
  (moments.filter (m.clock < ·)).min?

end Machine

end PartyBridge.Host
