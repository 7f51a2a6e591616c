import PartyBridge.Engine.Exit
import PartyBridge.Text.Integer

/-!
# Signals
-/

namespace PartyBridge.Host

def sigKill : Nat := 9

def sigFpe : Nat := 8

def sigPipe : Nat := 13

def sigTerm : Nat := 15

def sigCont : Nat := 18

def sigStop : Nat := 19

def signalCount : Nat := 65

/-- Whether a signal halts a process that does nothing about it. -/
def halting (signal : Nat) : Bool :=
  sigStop ≤ signal && signal ≤ 22

/-- Whether a process that does nothing about a signal survives it. -/
def harmless (signal : Nat) : Bool :=
  signal == 0 || signal == 17 || signal == 18 || signal == 23 || signal == 28

/-- The names of the signals that have one of their own, in order; the first stands for the end of a
shell. -/
def signalNames : List String :=
  ["EXIT", "HUP", "INT", "QUIT", "ILL", "TRAP", "ABRT", "BUS", "FPE", "KILL", "USR1", "SEGV", "USR2",
    "PIPE", "ALRM", "TERM", "16", "CHLD", "CONT", "STOP", "TSTP", "TTIN", "TTOU", "URG", "XCPU", "XFSZ",
    "VTALRM", "PROF", "WINCH", "IO", "PWR", "SYS", "32", "33"]

/-- The name of a signal. The signals of the upper range are counted from its ends. -/
def signalWord (n : Nat) : String :=
  match signalNames[n]? with
  | some name => name
  | none =>
    if n = 34 then "RTMIN"
    else if n < 50 then "RTMIN+" ++ Text.decimalNat (n - 34)
    else if n < 64 then "RTMAX-" ++ Text.decimalNat (64 - n)
    else "RTMAX"

def signalOfDigits? (text : List Char) : Option Nat :=
  let n := text.foldl (fun n c => n * 10 + (c.toNat - 48)) 0
  if !text.isEmpty && text.all Char.isDigit && n < signalCount then some n else none

/-- The number of a signal that is written as a number, or, from `least` on, by its name. -/
def signalNumber? (least : Nat) (text : List Char) : Option Nat :=
  match signalOfDigits? text with
  | some n => some n
  | none =>
    (List.range signalCount).find? fun (n : Nat) =>
      least ≤ n && (signalWord n).toList == text.map Char.toUpper

/-- How a shell tells that a signal has ended a command. -/
def signalText (signal : Nat) : String :=
  match signal with
  | 1 => "Hangup"
  | 2 => "Interrupt"
  | 3 => "Quit"
  | 4 => "Illegal instruction"
  | 5 => "Trace/breakpoint trap"
  | 6 => "Aborted"
  | 7 => "Bus error"
  | 8 => "Floating point exception"
  | 9 => "Killed"
  | 10 => "User defined signal 1"
  | 11 => "Segmentation fault"
  | 12 => "User defined signal 2"
  | 13 => "Broken pipe"
  | 14 => "Alarm clock"
  | 15 => "Terminated"
  | 16 => "Stack fault"
  | 24 => "CPU time limit exceeded"
  | 25 => "File size limit exceeded"
  | 26 => "Virtual timer expired"
  | 27 => "Profiling timer expired"
  | 29 => "I/O possible"
  | 30 => "Power failure"
  | 31 => "Bad system call"
  | n => if 34 ≤ n then "Real-time signal " ++ Text.decimalNat (n - 34) else "Unknown signal " ++ Text.decimalNat n

end PartyBridge.Host
