import PartyBridge.Text.Integer

/-!
# How a process ended

A process ends with a code or by a signal. `Exit` is what is reported of it, and may hold neither.
-/

namespace PartyBridge.Engine

structure Exit where
  code : Option Int
  signal : Option Int
deriving Repr, DecidableEq, Inhabited

namespace Exit

def ofCode (n : Int) : Exit :=
  ⟨some n, none⟩

def ofSignal (n : Int) : Exit :=
  ⟨none, some n⟩

/-- The end that a wait status of 32 bits encodes: the low seven bits are zero for a code, which
stands in the next byte, and hold the signal otherwise, unless all are set. -/
def ofWaitStatus (status : Int) : Exit :=
  let low := status % 128
  if low = 0 then ofCode (status / 256 % 256)
  else if low = 127 then ⟨none, none⟩
  else ofSignal low

def success (exit : Exit) : Bool :=
  exit.code == some 0

def text (exit : Exit) : String :=
  match exit.code, exit.signal with
  | some code, _ => "exit code " ++ Text.decimal code
  | none, some signal => "signal " ++ Text.decimal signal
  | none, none => "unknown exit status"

end Exit

def signalName? (n : Int) : Option String :=
  let names : List (Int × String) := [
    (1, "SIGHUP"), (2, "SIGINT"), (3, "SIGQUIT"), (4, "SIGILL"), (5, "SIGTRAP"), (6, "SIGABRT"),
    (7, "SIGBUS"), (8, "SIGFPE"), (9, "SIGKILL"), (10, "SIGUSR1"), (11, "SIGSEGV"),
    (12, "SIGUSR2"), (13, "SIGPIPE"), (14, "SIGALRM"), (15, "SIGTERM"), (16, "SIGSTKFLT"),
    (17, "SIGCHLD"), (18, "SIGCONT"), (19, "SIGSTOP"), (20, "SIGTSTP"), (21, "SIGTTIN"),
    (22, "SIGTTOU"), (23, "SIGURG"), (24, "SIGXCPU"), (25, "SIGXFSZ"), (26, "SIGVTALRM"),
    (27, "SIGPROF"), (28, "SIGWINCH"), (29, "SIGIO"), (30, "SIGPWR"), (31, "SIGSYS")]
  names.lookup n

/-- The end in words, a signal with its name. -/
def Exit.statusText (exit : Exit) : String :=
  match exit.code, exit.signal with
  | some code, _ => "exit status: " ++ Text.decimal code
  | none, some signal =>
    "signal: " ++ Text.decimal signal ++
      match signalName? signal with
      | some name => " (" ++ name ++ ")"
      | none => ""
  | none, none => "unrecognised wait status"

end PartyBridge.Engine
