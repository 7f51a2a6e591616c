import PartyBridge.ByteStream.Sink

/-!
# Log files with a cap

A writer appends lines to a file and starts the file afresh before a line that would lead past the
cap. The handle it opens first writes at the end of the file, the one it opens on starting afresh at
its own offset.
-/

namespace PartyBridge.Journal

inductive Place where
  | missing
  | directory
  | file (bytes : ByteArray)
deriving Inhabited

/-- The bytes of a log file, none where there is no file. -/
def Place.bytes : Place → ByteArray
  | .file bytes => bytes
  | _ => .empty

/-- Where a handle writes: at the end of the file, or at its own offset. -/
inductive Handle where
  | atEnd
  | atOffset (offset : Nat)
deriving Repr, DecidableEq, Inhabited

def Handle.write (bytes : ByteArray) (piece : ByteArray) : Handle → ByteArray × Handle
  | .atEnd => (bytes ++ piece, .atEnd)
  | .atOffset offset => (ByteStream.overwrite bytes offset piece, .atOffset (offset + piece.size))

structure LogWriter where
  handle : Handle
  cap : Nat
  written : Nat
deriving Repr, DecidableEq, Inhabited

namespace LogWriter

/-- Opens a log file. A file over the cap is removed first; a directory cannot be opened. -/
def «open» (cap : Nat) : Place → Option (LogWriter × ByteArray)
  | .directory => none
  | .missing => some (⟨.atEnd, cap, 0⟩, .empty)
  | .file bytes =>
    if cap < bytes.size then some (⟨.atEnd, cap, 0⟩, .empty)
    else some (⟨.atEnd, cap, bytes.size⟩, bytes)

/-- Whether the file has to start afresh before `size` more bytes. -/
def overflows (w : LogWriter) (size : Nat) : Bool :=
  w.cap < w.written + size

def makeRoom (w : LogWriter) (bytes : ByteArray) (size : Nat) : LogWriter × ByteArray :=
  if w.overflows size then ({ w with handle := .atOffset 0, written := 0 }, .empty) else (w, bytes)

def put (w : LogWriter) (bytes : ByteArray) (line : ByteArray) : LogWriter × ByteArray :=
  match w.handle.write bytes line with
  | (bytes, handle) => ({ w with handle, written := w.written + line.size }, bytes)

def writeLine (w : LogWriter) (bytes : ByteArray) (line : ByteArray) : LogWriter × ByteArray :=
  match w.makeRoom bytes line.size with
  | (w, bytes) => w.put bytes line

end LogWriter

end PartyBridge.Journal
