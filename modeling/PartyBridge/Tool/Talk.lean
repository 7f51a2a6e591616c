import PartyBridge.Host.Errno
import PartyBridge.Text.Utf8

/-!
# How tools talk to the machine

A tool asks the machine for one thing at a time and goes on with the answer. What it writes to its
standard output may be held back until a block is full.
-/

namespace PartyBridge.Tool

open Host (Errno)

inductive Purpose where
  | read
  | write
deriving Repr, DecidableEq, Inhabited

inductive Ask where
  /-- Nothing: the tool has more to do. -/
  | more
  | read (fd size : Nat)
  | write (fd : Nat) (bytes : Bytes)
  | «open» (path : Bytes) (purpose : Purpose)
  | close (fd : Nat)
  /-- Give the last bytes that were read back to those who read after the tool. -/
  | giveBack (fd count : Nat)
  /-- Put a new file in the place of one. -/
  | replace (path : Bytes) (contents : Bytes)
  | exit (code : Nat)
deriving Repr, Inhabited

inductive Answer where
  | done
  | data (bytes : Bytes)
  | eof
  | opened (fd : Nat)
  | failed (e : Errno)
deriving Repr, Inhabited

def blockSize : Nat := 4096

/-- The part of held output that is written now, and the part that is held on. -/
def wholeBlocks (held : Bytes) : Bytes × Bytes :=
  let n := held.length / blockSize * blockSize
  (held.take n, held.drop n)

end PartyBridge.Tool
