import PartyBridge.Text.Utf8

/-!
# Lines of a byte stream

A stream arrives as chunks, and a read may be interrupted or fail. `lineReads` gives the results of
reading it line by line: an interruption is invisible, a failure loses the line in progress, and the
last line needs no newline.
-/

namespace PartyBridge.ByteStream

inductive Event where
  | chunk (bytes : Bytes)
  | interrupt
  | fault (message : String)
deriving Repr, DecidableEq

/-- What reading one line gives: the line with its newline, or a failure. -/
inductive LineRead where
  | line (bytes : Bytes)
  | fault (message : String)
deriving Repr, DecidableEq

/-- A chunk cut into pieces of at most `capacity` bytes, as a buffer of that size takes it in. -/
def buffered (capacity : Nat) (bytes : Bytes) : List Bytes :=
  match bytes with
  | [] => []
  | b :: rest => (b :: rest.take (capacity - 1)) :: buffered capacity (rest.drop (capacity - 1))
termination_by bytes.length

/-- Reading in progress: the bytes of the current line and the results so far, newest first. -/
structure Assembly where
  pending : Bytes
  done : List LineRead
deriving Repr, DecidableEq

namespace Assembly

def start : Assembly :=
  ⟨[], []⟩

def byte (a : Assembly) (b : UInt8) : Assembly :=
  if b = 10 then ⟨[], .line (b :: a.pending).reverse :: a.done⟩ else { a with pending := b :: a.pending }

def bytes (a : Assembly) (bs : Bytes) : Assembly :=
  bs.foldl byte a

def event (capacity : Nat) (a : Assembly) : Event → Assembly
  | .chunk bs => (buffered capacity bs).foldl bytes a
  | .interrupt => a
  | .fault message => ⟨[], .fault message :: a.done⟩

def finish (a : Assembly) : List LineRead :=
  match a.pending with
  | [] => a.done.reverse
  | pending => (.line pending.reverse :: a.done).reverse

end Assembly

/-- The results of reading a stream line by line until its end. -/
def lineReads (capacity : Nat) (events : List Event) : List LineRead :=
  (events.foldl (Assembly.event capacity) Assembly.start).finish

end PartyBridge.ByteStream
