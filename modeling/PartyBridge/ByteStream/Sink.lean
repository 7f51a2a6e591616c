import PartyBridge.Text.Utf8

/-!
# Sinks for bytes

A sink stores what is written to it, possibly in pieces, until it has no more room. What was stored
before a failure stays. A file can also be written to in the middle.
-/

namespace PartyBridge.ByteStream

inductive WriteFault where
  | brokenPipe
  | noProgress
  | flushRefused
  | other (message : String)
deriving Repr, DecidableEq

def WriteFault.message : WriteFault → String
  | .brokenPipe => "broken pipe"
  | .noProgress => "failed to write whole buffer"
  | .flushRefused => "flush refused"
  | .other message => message

/-- A sink: what it stores, how many bytes one write takes, how many bytes it has room for, what it
reports without room, and whether flushing fails. -/
structure Sink where
  stored : Bytes
  perWrite : Option Nat
  room : Option Nat
  whenFull : WriteFault
  refusesFlush : Bool
deriving Repr, DecidableEq

namespace Sink

def unlimited : Sink :=
  ⟨[], none, none, .brokenPipe, false⟩

/-- Writes all of the bytes, or as many as there is room for. -/
def write (s : Sink) (bytes : Bytes) : Sink × Except WriteFault Unit :=
  if bytes.isEmpty then (s, .ok ())
  else
    let left := s.room.map (· - s.stored.length)
    if left = some 0 then (s, .error s.whenFull)
    else if s.perWrite = some 0 then (s, .error .noProgress)
    else
      match left with
      | none => ({ s with stored := s.stored ++ bytes }, .ok ())
      | some n =>
        ({ s with stored := s.stored ++ bytes.take n },
          if bytes.length ≤ n then .ok () else .error s.whenFull)

def flush (s : Sink) : Except WriteFault Unit :=
  if s.refusesFlush then .error .flushRefused else .ok ()

/-- Writes, then flushes. -/
def send (s : Sink) (bytes : Bytes) : Sink × Except WriteFault Unit :=
  match s.write bytes with
  | (s, .ok ()) => (s, s.flush)
  | (s, .error fault) => (s, .error fault)

end Sink

/-! ### Files -/

def zeroBytes (n : Nat) : ByteArray :=
  ⟨Array.replicate n 0⟩

/-- Writes bytes over those from `offset` on; a gap before the offset is filled with zeros. Where there is nothing to
write, nothing changes. -/
def overwrite (bytes : ByteArray) (offset : Nat) (piece : ByteArray) : ByteArray :=
  if piece.isEmpty then bytes
  else if bytes.size = offset then bytes ++ piece
  else if bytes.size < offset then bytes ++ zeroBytes (offset - bytes.size) ++ piece
  else bytes.extract 0 offset ++ piece ++ bytes.extract (offset + piece.size) bytes.size

end PartyBridge.ByteStream
