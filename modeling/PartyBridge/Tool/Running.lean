import PartyBridge.Tool.Sed.CommandLine
import PartyBridge.Tool.Sleep
import PartyBridge.Tool.Stream

/-!
# Tools at work

All tools but the shell and `sleep` take steps in the same way: each step ends in something that the
machine is asked for.
-/

namespace PartyBridge.Tool

open Shell (toBytes)

inductive Running where
  /-- Write to descriptors, then end. -/
  | print (writes : List (Nat × Bytes)) (code : Nat)
  | stream (s : Stream)
  | sed (r : Sed.Running)
deriving Inhabited

namespace Running

/-- One step with the answer to what was asked for last. -/
def step (r : Running) (answer : Answer) : Running × Ask :=
  match r with
  | .print writes code =>
    let code := match answer with
      | .failed _ => 1
      | _ => code
    match writes with
    | [] => (.print [] code, .exit code)
    | (fd, bytes) :: writes => (.print writes code, .write fd bytes)
  | .stream s =>
    let (s, ask) := s.step answer
    (.stream s, ask)
  | .sed r =>
    let (r, ask) := r.step answer
    (.sed r, ask)

def complaint (text : List Char) (code : Nat) : Running × Ask :=
  (.print [(2, toBytes text)] code, .more)

def text (text : List Char) (code : Nat) : Running × Ask :=
  (.print (if text.isEmpty then [] else [(1, toBytes text)]) code, .more)

def cat (args : List (List Char)) : Running × Ask :=
  match catStream args with
  | .error e => complaint e 1
  | .ok s => (.stream s, .more)

def head (args : List (List Char)) : Running × Ask :=
  match headStream args with
  | .error e => complaint e 1
  | .ok s => (.stream s, .more)

def tr (args : List (List Char)) : Running × Ask :=
  match trStream args with
  | .error e => complaint e 1
  | .ok (s, []) => (.stream s, .more)
  | .ok (s, warnings) => (.stream s, .write 2 (toBytes warnings))

def edit (args : List (List Char)) : Running × Ask :=
  let (r, ask) := Sed.start args
  (.sed r, ask)

end Running

end PartyBridge.Tool
