import PartyBridge.ByteStream.Sink
import PartyBridge.Engine.Exit
import PartyBridge.Host.Signal
import PartyBridge.Host.Tree
import PartyBridge.Shell.State
import PartyBridge.Tool.Running

/-!
# A machine with processes

A machine holds files, pipes and processes, and a clock in nanoseconds. Processes are shells, sleepers
and other tools; they share pipes and open files through their descriptors. The player that uses the
machine holds ends of pipes of its own.
-/

namespace PartyBridge.Host

open Engine (Exit)

/-- Bytes on their way: those to be read first, and those that came later, newest first. -/
structure Pipe where
  front : Bytes
  back : Bytes
  size : Nat
deriving Repr, DecidableEq, Inhabited

namespace Pipe

/-- How many bytes a pipe holds before its writers have to wait. -/
def capacity : Nat := 65536

def empty : Pipe :=
  ⟨[], [], 0⟩

def toList (p : Pipe) : Bytes :=
  p.front ++ p.back.reverse

def put (p : Pipe) (bytes : Bytes) : Pipe :=
  { p with back := bytes.reverseAux p.back, size := p.size + bytes.length }

def take (p : Pipe) (n : Nat) : Bytes × Pipe :=
  let front := if p.front.isEmpty then p.back.reverse else p.front
  let back := if p.front.isEmpty then [] else p.back
  let bytes := front.take n
  (bytes, ⟨front.drop n, back, p.size - bytes.length⟩)

end Pipe

inductive Target where
  | file (index : Nat)
  | null
  | zero
  | full
  | directory
deriving Repr, DecidableEq, Inhabited

inductive Access where
  | read
  | write
  | append
  | both
deriving Repr, DecidableEq, Inhabited

namespace Access

def creates : Access → Bool
  | .read => false
  | .write | .append | .both => true

def reads : Access → Bool
  | .read | .both => true
  | .write | .append => false

end Access

/-- An open file, shared by all descriptors that were copied from one another. -/
structure OpenFile where
  target : Target
  offset : Nat
  access : Access
deriving Repr, DecidableEq, Inhabited

inductive Fd where
  | readEnd (pipe : Nat)
  | writeEnd (pipe : Nat)
  | file (index : Nat)
deriving Repr, DecidableEq, Inhabited

/-- What a process does. A sleeper without a moment to wake never does; a tool waits for what it has asked
for. -/
inductive Body where
  | shell (state : Shell.State)
  | sleep (wake : Option Nat)
  | tool (running : Tool.Running) (ask : Tool.Ask)
  | ended (exit : Exit)
deriving Inhabited

/-- A process. It does not run before its start, nor while it is halted; then it keeps the signals that
come. Once it has ended, its parent may know it from its start on. -/
structure Process where
  pid : Nat
  parent : Nat
  group : Nat
  fds : List (Nat × Fd)
  cwd : Path
  ignored : List Nat
  start : Nat
  halted : Option (List Nat)
  body : Body
deriving Inhabited

structure Machine where
  clock : Nat
  tree : Tree
  pipes : Array Pipe
  opened : Array OpenFile
  processes : List Process
  nextPid : Nat
  held : List Fd
deriving Inhabited

/-- The parent of processes whose own parent has ended. -/
def orphanage : Nat := 1

def player : Nat := 2

inductive ReadResult where
  | data (bytes : Bytes)
  | eof
  | wait
  | refused (e : Errno)
deriving Repr, DecidableEq

inductive WriteResult where
  | wrote (n : Nat)
  | wait
  | refused (e : Errno)
deriving Repr, DecidableEq

namespace Machine

def process? (m : Machine) (pid : Nat) : Option Process :=
  m.processes.find? fun p => p.pid == pid

def update (m : Machine) (pid : Nat) (f : Process → Process) : Machine :=
  { m with processes := m.processes.map fun p => if p.pid == pid then f p else p }

def setBody (m : Machine) (pid : Nat) (body : Body) : Machine :=
  m.update pid fun p => { p with body }

def holds (m : Machine) (fd : Fd) : Bool :=
  m.held.contains fd || m.processes.any fun p => p.fds.any fun (_, f) => f == fd

def newPipe (m : Machine) : Machine × Nat :=
  ({ m with pipes := m.pipes.push .empty }, m.pipes.size)

def pipe (m : Machine) (index : Nat) : Pipe :=
  (m.pipes[index]?).getD .empty

def setPipe (m : Machine) (index : Nat) (p : Pipe) : Machine :=
  { m with pipes := m.pipes.setIfInBounds index p }

def setOpened (m : Machine) (index : Nat) (f : OpenFile) : Machine :=
  { m with opened := m.opened.setIfInBounds index f }

def readFd (m : Machine) (fd : Fd) (n : Nat) : Machine × ReadResult :=
  match fd with
  | .writeEnd _ => (m, .refused .badDescriptor)
  | .readEnd index =>
    let p := m.pipe index
    if p.size = 0 then (m, if m.holds (.writeEnd index) then .wait else .eof)
    else
      let (bytes, p) := p.take n
      (m.setPipe index p, .data bytes)
  | .file index =>
    match m.opened[index]? with
    | none => (m, .refused .badDescriptor)
    | some f =>
      match if f.access.reads then some f.target else none with
      | none => (m, .refused .badDescriptor)
      | some .null => (m, .eof)
      | some .zero | some .full => (m, .data (List.replicate n 0))
      | some .directory => (m, .refused .isDirectory)
      | some (.file data) =>
        let bytes := m.tree.contents data
        if bytes.size ≤ f.offset then (m, .eof)
        else
          let piece := bytes.extract f.offset (f.offset + n)
          (m.setOpened index { f with offset := f.offset + piece.size }, .data piece.toList)

def writeFd (m : Machine) (fd : Fd) (bytes : Bytes) : Machine × WriteResult :=
  match fd with
  | .readEnd _ => (m, .refused .badDescriptor)
  | .writeEnd index =>
    if !m.holds (.readEnd index) then (m, .refused .brokenPipe)
    else
      let p := m.pipe index
      let piece := bytes.take (Pipe.capacity - p.size)
      if piece.isEmpty && !bytes.isEmpty then (m, .wait)
      else (m.setPipe index (p.put piece), .wrote piece.length)
  | .file index =>
    match m.opened[index]? with
    | none => (m, .refused .badDescriptor)
    | some f =>
      match if f.access == .read then none else some f.target with
      | none | some .directory => (m, .refused .badDescriptor)
      | some .null | some .zero => (m, .wrote bytes.length)
      | some .full => (m, if bytes.isEmpty then .wrote 0 else .refused .noSpace)
      | some (.file data) =>
        let old := m.tree.contents data
        let offset := if f.access == .append then old.size else f.offset
        let piece : ByteArray := ⟨bytes.toArray⟩
        let tree := (m.tree.write data (ByteStream.overwrite old offset piece)).touch data m.clock
        let m := { m with tree }
        (m.setOpened index { f with offset := offset + piece.size }, .wrote piece.size)

def fd? (m : Machine) (pid n : Nat) : Option Fd :=
  m.process? pid >>= fun p => p.fds.lookup n

def read (m : Machine) (pid n size : Nat) : Machine × ReadResult :=
  match m.fd? pid n with
  | some fd => m.readFd fd size
  | none => (m, .refused .badDescriptor)

def write (m : Machine) (pid n : Nat) (bytes : Bytes) : Machine × WriteResult :=
  match m.fd? pid n with
  | some fd => m.writeFd fd bytes
  | none => (m, .refused .badDescriptor)

def setFd (m : Machine) (pid n : Nat) (fd : Fd) : Machine :=
  m.update pid fun p => { p with fds := p.fds.filter (fun (k, _) => k != n) ++ [(n, fd)] }

def closeFd (m : Machine) (pid n : Nat) : Machine :=
  m.update pid fun p => { p with fds := p.fds.filter fun (k, _) => k != n }

/-- The least number at or above `low` that no descriptor of a process has. -/
def freeFd (m : Machine) (pid low : Nat) : Nat :=
  match m.process? pid with
  | none => low
  | some p =>
    let candidates := (List.range (p.fds.length + 1)).map (· + low)
    (candidates.find? fun n => (p.fds.lookup n).isNone).getD low

/-- Opens what a descriptor stands for once more. -/
def reopen (m : Machine) (fd : Fd) (access : Access) : Except Errno (Machine × Fd) :=
  match fd, access with
  | .readEnd pipe, .write | .readEnd pipe, .append => .ok (m, .writeEnd pipe)
  | .writeEnd pipe, .read => .ok (m, .readEnd pipe)
  | .file index, _ =>
    match m.opened[index]? with
    | none => .error .noEntry
    | some f =>
      let m := match f.target, access with
        | .file data, .write => { m with tree := m.tree.write data .empty }
        | _, _ => m
      .ok ({ m with opened := m.opened.push ⟨f.target, 0, access⟩ }, .file m.opened.size)
  | fd, _ => .ok (m, fd)

/-- Opens a file for a working directory and the descriptors of a process; writing creates it. A path
that ends in a slash cannot be created. -/
def openPath (m : Machine) (cwd : Path) (own : List (Nat × Fd)) (path : Bytes) (access : Access) :
    Except Errno (Machine × Fd) :=
  let opened (m : Machine) (target : Target) : Except Errno (Machine × Fd) :=
    .ok ({ m with opened := m.opened.push ⟨target, 0, access⟩ }, .file m.opened.size)
  let slash := access.creates && 1 < path.length && path.getLast? == some 47
  let named := if slash then (path.reverse.dropWhile (· == 47)).reverse else path
  match m.tree.find cwd (if named.isEmpty then path else named) with
  | .error e => .error e
  | .ok found =>
    if slash then .error .isDirectory
    else
      match found with
      | .free path =>
        if access == .read then .error .noEntry
        else
          let index := m.tree.files.size
          opened { m with tree := (m.tree.putFile path .empty false).touch index m.clock } (.file index)
      | .node _ .directory => if access == .read then opened m .directory else .error .isDirectory
      | .node _ (.device .null) => opened m .null
      | .node _ (.device .zero) => opened m .zero
      | .node _ (.device .full) => opened m .full
      | .node _ (.device (.descriptor n)) =>
        match own.lookup n with
        | some fd => m.reopen fd access
        | none => .error .noEntry
      | .node _ (.tool _) => if access == .read then opened m .null else .error .textBusy
      | .node _ (.link _) => .error .tooManyLinks
      | .node _ (.file index) =>
        let m := if access == .write then { m with tree := (m.tree.write index .empty).touch index m.clock } else m
        opened m (.file index)

/-! ### Life and death of processes -/

/-- How long it takes until a shell notices that a child has ended, in nanoseconds. -/
def exitDelay : Nat := 20000

/-- A process has ended: its descriptors are closed and its children are orphans. Orphans that have
ended leave no trace. -/
def finish (m : Machine) (pid : Nat) (exit : Exit) : Machine :=
  let processes := m.processes.map fun p =>
    if p.pid == pid then { p with body := .ended exit, fds := [], start := m.clock + exitDelay }
    else if p.parent == pid then { p with parent := orphanage }
    else p
  let gone (p : Process) : Bool :=
    p.parent == orphanage &&
      match p.body with
      | .ended _ => true
      | _ => false
  { m with processes := processes.filter fun p => !gone p }

def exit? (m : Machine) (pid : Nat) : Option Exit :=
  match m.process? pid with
  | some p =>
    match p.body with
    | .ended exit => some exit
    | _ => none
  | none => none

def reap (m : Machine) (pid : Nat) : Machine :=
  { m with processes := m.processes.filter fun p => p.pid != pid }

/-- A copy of a process that does something else. -/
def fork (m : Machine) (pid : Nat) (body : Body) (delay : Nat) : Machine × Nat :=
  match m.process? pid with
  | none => (m, 0)
  | some p =>
    let start := m.clock + delay
    let child := { p with pid := m.nextPid, parent := pid, body, start, halted := none }
    ({ m with processes := m.processes ++ [child], nextPid := m.nextPid + 1 }, m.nextPid)

/-- What a signal does that nothing is done about. -/
def suffer (m : Machine) (pid signal : Nat) : Machine :=
  if harmless signal then m
  else if halting signal then m.update pid fun p => { p with halted := some [] }
  else m.finish pid (.ofSignal signal)

/-- A signal reaches a process that is not halted. -/
def deliver (m : Machine) (pid signal : Nat) : Machine :=
  match m.process? pid with
  | none => m
  | some p =>
    if signal = sigKill || signal = sigStop then m.suffer pid signal
    else if p.ignored.contains signal then m
    else
      match p.body with
      | .shell st =>
        match st.traps.lookup signal with
        | some _ =>
          let caught := st.caught.filter (· != signal) ++ [signal]
          m.setBody pid (.shell { st with caught })
        | none => m.suffer pid signal
      | _ => m.suffer pid signal

def signal (m : Machine) (pid signal : Nat) : Machine :=
  match m.process? pid with
  | none => m
  | some p =>
    match p.body, p.halted with
    | .ended _, _ => m
    | _, none => m.deliver pid signal
    | _, some kept =>
      if signal = sigKill then m.deliver pid signal
      else if signal = sigCont then
        (kept ++ [signal]).foldl (fun m s => m.deliver pid s) (m.update pid fun p => { p with halted := none })
      else m.update pid fun p => { p with halted := some (kept ++ [signal]) }

def signalGroup (m : Machine) (group signal : Nat) : Machine × Bool :=
  let pids := (m.processes.filter fun p => p.group == group).map Process.pid
  (pids.foldl (fun m pid => m.signal pid signal) m, !pids.isEmpty)

def alive (m : Machine) (pid : Nat) : Bool :=
  (m.process? pid).any fun p =>
    match p.body with
    | .ended _ => false
    | _ => true

end Machine

end PartyBridge.Host
