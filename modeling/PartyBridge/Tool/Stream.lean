import PartyBridge.Tool.Talk
import PartyBridge.Tool.Transliteration

/-!
# Tools that copy their input

`cat`, `head` and `tr` read their files one after the other and write what they make of them. The latter
two hold their output back until a block is full.
-/

namespace PartyBridge.Tool

open Host (Errno)
open Shell (ofBytes toBytes)

structure Showing where
  numbered : Bool
  /-- Empty lines are not numbered. -/
  nonblank : Bool
  squeezed : Bool
  ends : Bool
  tabs : Bool
  unprintable : Bool
  /-- The last line's number, how many empty lines were last, whether a line starts here, and whether a
  carriage return has been held back. -/
  line : Nat
  blanks : Nat
  fresh : Bool
  returned : Bool
deriving Repr, DecidableEq, Inhabited

namespace Showing

def isPlain (s : Showing) : Bool :=
  !(s.numbered || s.squeezed || s.ends || s.tabs || s.unprintable)

def lineNumber (n : Nat) : List Char :=
  let digits := (toString n).toList
  List.replicate (6 - digits.length) ' ' ++ digits ++ ['\t']

def visible (s : Showing) (c : Char) : List Char :=
  let n := c.toNat
  let low (n : Nat) : List Char :=
    if n < 32 then ['^', Char.ofNat (n + 64)] else if n = 127 then ['^', '?'] else [Char.ofNat n]
  if c == '\t' then if s.tabs then ['^', 'I'] else [c]
  else if !s.unprintable then [c]
  else if n < 128 then low n
  else ['M', '-'] ++ low (n - 128)

def put (s : Showing) (c : Char) : List Char × Showing :=
  let held : List Char := if s.returned then if c == '\n' then ['^', 'M'] else ['\r'] else []
  let s := { s with returned := false }
  if c == '\n' then
    if s.fresh then
      let blanks := s.blanks + 1
      if s.squeezed && 1 < blanks then ([], { s with blanks })
      else
        let line := if s.numbered && !s.nonblank then s.line + 1 else s.line
        let start := if s.numbered && !s.nonblank then lineNumber line else []
        (start ++ (if s.ends then ['$'] else []) ++ ['\n'], { s with line, blanks })
    else (held ++ (if s.ends then ['$'] else []) ++ ['\n'], { s with fresh := true, blanks := 0 })
  else
    let line := if s.fresh && s.numbered then s.line + 1 else s.line
    let start := if s.fresh && s.numbered then lineNumber line else []
    let s := { s with line, fresh := false, blanks := 0 }
    if c == '\r' && s.ends && !s.unprintable then (held ++ start, { s with returned := true })
    else (held ++ start ++ s.visible c, s)

end Showing

inductive Filter where
  | cat (s : Showing)
  | head (left : Nat) (bytes : Bool)
  | tr (work : Tr.Work) (last : Option Char)
deriving Inhabited

namespace Filter

def name : Filter → String
  | .cat _ => "cat"
  | .head .. => "head"
  | .tr .. => "tr"

def holds : Filter → Bool
  | .cat _ => false
  | _ => true

def readSize : Filter → Nat
  | .cat _ => 131072
  | .head .. => 1024
  | .tr .. => 8192

/-- Feeds a filter: what it becomes, what it writes, and how many bytes it has left unread if it has
enough. -/
def feed (f : Filter) (bytes : Bytes) : Filter × Bytes × Option Nat :=
  match f with
  | .cat s =>
    if s.isPlain then (f, bytes, none)
    else
      let (out, s) := (ofBytes bytes).foldl
        (fun (out, s) c => let (text, s) := Showing.put s c; (text.reverseAux out, s)) (([] : List Char), s)
      (.cat s, toBytes out.reverse, none)
  | .head left inBytes =>
    let (kept, left) := bytes.foldl
      (fun (kept, left) b =>
        if left = 0 then (kept, left) else (b :: kept, if inBytes || b = 10 then left - 1 else left))
      (([] : Bytes), left)
    (.head left inBytes, kept.reverse, if left = 0 then some (bytes.length - kept.length) else none)
  | .tr work last =>
    let (text, last) := work.apply last [] (ofBytes bytes)
    (.tr work last, toBytes text, none)

def rest : Filter → Bytes
  | .cat s => if s.returned then [13] else []
  | _ => []

end Filter

inductive StreamPhase where
  | start
  | started
  | next
  | reading
  | opening (name : Bytes)
  | writing
  | complaining
  | giving (count : Nat)
  | leave
  | flushed
  | gone
deriving Repr, Inhabited

/-- A tool that copies its input: the files to come, where none is standard input, the one at hand, the
output that is held back, the code to end with, and whether there was no standard input. -/
structure Stream where
  filter : Filter
  inputs : List (Option Bytes)
  current : Option (Nat × Option Bytes)
  output : Bytes
  status : Nat
  lost : Bool
  phase : StreamPhase
deriving Inhabited

namespace Stream

def message (s : Stream) (text : List Char) : Ask :=
  .write 2 (toBytes ((s.filter.name ++ ": ").toList ++ text ++ ['\n']))

def refuse (s : Stream) (text : List Char) : Stream × Ask :=
  ({ s with status := 1, phase := .gone, output := [] }, s.message text)

def cannot (s : Stream) (file : Option Bytes) (e : Errno) (opening : Bool) : Stream × Ask :=
  let name := file.elim ['-'] ofBytes
  let reason := e.reason.toList
  let lost := s.lost || (file.isNone && e = .badDescriptor)
  let s := { s with status := 1, lost, current := none, phase := .complaining }
  match s.filter with
  | .tr .. => s.refuse ("read error: ".toList ++ reason)
  | .cat _ => (s, s.message (name ++ ": ".toList ++ reason))
  | .head .. =>
    let quotedName := quoted (if file.isNone then "standard input".toList else name)
    (s, s.message (if opening then "cannot open ".toList ++ quotedName ++ " for reading: ".toList ++ reason
      else "error reading ".toList ++ quotedName ++ ": ".toList ++ reason))

/-- Ends; that there was no standard input is told once more. -/
def finish (s : Stream) : Stream × Ask :=
  let reason := Errno.badDescriptor.reason.toList
  match s.lost, s.filter with
  | true, .cat _ => s.refuse ("closing standard input: ".toList ++ reason)
  | true, .head .. => s.refuse ("-: ".toList ++ reason)
  | _, _ => ({ s with phase := .gone }, .more)

def go (s : Stream) : Stream × Ask :=
  match s.phase with
  | .start =>
    match s.filter with
    | .cat _ => ({ s with phase := .started }, .write 1 [])
    | _ => ({ s with phase := .next }, .more)
  | .leave =>
    let output := s.output ++ s.filter.rest
    if output.isEmpty then ({ s with phase := .flushed }, .more)
    else ({ s with phase := .flushed, output := [] }, .write 1 output)
  | .gone => (s, .exit s.status)
  | .giving count => ({ s with phase := .leave }, .giveBack (s.current.elim 0 Prod.fst) count)
  | _ =>
    match s.current, s.inputs with
    | some (fd, _), _ => ({ s with phase := .reading }, .read fd s.filter.readSize)
    | none, [] => ({ s with phase := .leave }, .more)
    | none, none :: inputs => ({ s with inputs, current := some (0, none), phase := .next }, .more)
    | none, some name :: inputs => ({ s with inputs, phase := .opening name }, .open name .read)

def step (s : Stream) (answer : Answer) : Stream × Ask :=
  match s.phase, answer with
  | .started, .failed e => s.refuse ("standard output: ".toList ++ e.reason.toList)
  | .started, _ => { s with phase := .next }.go
  | .writing, .failed e => s.refuse ("write error: ".toList ++ e.reason.toList)
  | .flushed, .failed e => s.refuse ("write error: ".toList ++ e.reason.toList)
  | .flushed, _ => s.finish
  | .opening name, .opened fd => ({ s with current := some (fd, some name), phase := .next }, .more)
  | .opening name, .failed e => s.cannot (some name) e true
  | .reading, .data bytes =>
    let (filter, text, left) := s.filter.feed bytes
    let s := { s with filter, phase := left.elim .next .giving }
    let output := s.output ++ text
    if !filter.holds then ({ s with phase := .writing }, .write 1 output)
    else
      let (now, later) := wholeBlocks output
      if now.isEmpty then ({ s with output := later }, .more)
      else
        match left with
        | some _ => ({ s with output }, .more)
        | none => ({ s with output := later, phase := .writing }, .write 1 now)
  | .reading, .failed e => s.cannot (s.current.elim none Prod.snd) e false
  | .reading, _ =>
    match s.current with
    | some (fd, some _) => ({ s with current := none, phase := .next }, .close fd)
    | _ => ({ s with current := none, phase := .next }, .more)
  | _, _ => s.go

end Stream

/-! ### Command lines -/

def inputsOf (operands : List (List Char)) : List (Option Bytes) :=
  if operands.isEmpty then [none] else operands.map fun f => if f == ['-'] then none else some (toBytes f)

def Stream.ofFilter (filter : Filter) (inputs : List (Option Bytes)) : Stream :=
  ⟨filter, inputs, none, [], 0, false, .start⟩

def catOptions : OptionTable :=
  { letters := ['A', 'b', 'e', 'n', 's', 't', 'u', 'v', 'E', 'T'].map fun c => (c, .none)
    words :=
      [("number-nonblank", .none, 'b'), ("number", .none, 'n'), ("squeeze-blank", .none, 's'),
        ("show-nonprinting", .none, 'v'), ("show-ends", .none, 'E'), ("show-tabs", .none, 'T'),
        ("show-all", .none, 'A')]
    anywhere := true }

def catStream (args : List (List Char)) : Except (List Char) Stream :=
  match catOptions.parse args with
  | .error e => .error (advice "cat" e)
  | .ok g =>
    let any (letters : List Char) : Bool := letters.any g.has
    .ok (.ofFilter
      (.cat ⟨any ['n', 'b'], g.has 'b', g.has 's', any ['A', 'e', 'E'], any ['A', 't', 'T'],
        any ['A', 'e', 't', 'v'], 0, 0, true, false⟩)
      (inputsOf g.operands))

/-- `tr` with its arguments, and its warnings. -/
def trStream (args : List (List Char)) : Except (List Char) (Stream × List Char) :=
  match Tr.ofArguments args with
  | .error e => .error e
  | .ok (work, warnings) => .ok (.ofFilter (.tr work none) [none], warnings)

def headOptions : OptionTable :=
  { letters := [('n', .required), ('c', .required), ('q', .none)]
    words := [("lines", .required, 'n'), ("bytes", .required, 'c'), ("quiet", .none, 'q'), ("silent", .none, 'q')]
    anywhere := true }

/-- `head` with its arguments. The number of lines may be written as an option of its own. -/
def headStream (args : List (List Char)) : Except (List Char) Stream :=
  let args := match args with
    | ('-' :: c :: digits) :: rest =>
      if (c :: digits).all Char.isDigit then ['-', 'n'] :: (c :: digits) :: rest else args
    | _ => args
  match headOptions.parse args with
  | .error e => .error (advice "head" e)
  | .ok g =>
    let count (c : Char) : Option (List Char) := (g.options.reverse.find? fun (d, _) => d == c).map Prod.snd
    let value (digits : List Char) : Nat := digits.foldl (fun n c => n * 10 + (c.toNat - 48)) 0
    let made (digits : List Char) (bytes : Bool) : Except (List Char) Stream :=
      if digits.isEmpty || !digits.all Char.isDigit then
        let what := if bytes then "bytes" else "lines"
        .error (("head: invalid number of " ++ what ++ ": ").toList ++ quoted digits ++ ['\n'])
      else .ok (.ofFilter (.head (value digits) bytes) (inputsOf g.operands))
    match count 'c', count 'n' with
    | some digits, _ => made digits true
    | none, some digits => made digits false
    | none, none => made "10".toList false

end PartyBridge.Tool
