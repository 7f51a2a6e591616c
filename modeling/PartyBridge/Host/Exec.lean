import PartyBridge.Host.Tree

/-!
# Finding programs

A program is a tool of the system, or a file whose first line names the program that runs it.
-/

namespace PartyBridge.Host

structure Launch where
  tool : String
  zero : Bytes
  args : List Bytes
deriving Repr, DecidableEq, Inhabited

def maxArgument : Nat := 131071

def maxArguments : Nat := 2097152

def tooLong (args : List Bytes) : Bool :=
  args.any (fun a => maxArgument < a.length) || maxArguments < args.foldl (fun n a => n + a.length + 9) 0

/-- How many bytes of a file are looked at for the program that runs it. -/
def headSize : Nat := 256

def isBlankByte (b : UInt8) : Bool :=
  b == 32 || b == 9

/-- The rest of a first line: up to its newline, or, if that is not among the bytes looked at, all of
them but the last. In the latter case something has to end the name. -/
def headLine? (head : Bytes) : Option Bytes :=
  let line := head.takeWhile fun b => b != 10 && b != 0
  if head.drop line.length |>.head? |>.any (· == 10) then some line
  else
    let text := head ++ List.replicate (headSize - 2 - head.length) 0
    if (text.dropWhile isBlankByte).any fun b => isBlankByte b || b == 0 then some text.dropLast else none

/-- The interpreter that the first line of a file names, and its argument, which is all that follows. -/
def interpreter? (bytes : ByteArray) : Option (Bytes × Option Bytes) :=
  if bytes.extract 0 2 == ⟨#[35, 33]⟩ then
    match headLine? (bytes.extract 2 headSize).toList with
    | none => none
    | some line =>
      let line := ((line.reverse.dropWhile isBlankByte).reverse).dropWhile isBlankByte
      let name := line.takeWhile fun b => !isBlankByte b && b != 0
      let rest := line.drop name.length
      if line.isEmpty then none
      else if rest.isEmpty || rest.head? == some 0 then some (name, none)
      else some (name, some ((rest.dropWhile isBlankByte).takeWhile (· != 0)))
  else none

/-- What may be run at a path. An interpreter without a name is the directory itself. -/
def runnable (t : Tree) (cwd : Path) (path : Bytes) : Except Errno Node :=
  match t.find cwd (if path.isEmpty then [46] else path) with
  | .error e => .error e
  | .ok (.free _) => .error .noEntry
  | .ok (.node _ (.tool name)) => .ok (.tool name)
  | .ok (.node _ (.file index)) => if t.executable index then .ok (.file index) else .error .accessDenied
  | .ok (.node _ _) => .error .accessDenied

/-- How many interpreters may stand for one another. -/
def maxInterpreters : Nat := 6

/-- Runs a file that has been found at a path; its interpreter runs in its place. -/
def launchNode (t : Tree) (cwd : Path) : Nat → Node → Bytes → Launch → Except Errno Launch
  | 0, _, _, _ => .error .tooManyLinks
  | fuel + 1, node, path, l =>
    match node with
    | .tool tool => .ok { l with tool }
    | .file index =>
      match interpreter? (t.contents index) with
      | none => .error .notExecutable
      | some (name, option) =>
        match runnable t cwd name with
        | .error e => .error e
        | .ok node => launchNode t cwd fuel node name ⟨"", name, option.toList ++ path :: l.args⟩
    | _ => .error .accessDenied

def launchAt (t : Tree) (cwd : Path) (path zero : Bytes) (args : List Bytes) : Except Errno Launch :=
  if path.isEmpty then .error .noEntry
  else
    match runnable t cwd path with
    | .error e => .error e
    | .ok node =>
      if tooLong (zero :: args) then .error .argumentsTooLong
      else launchNode t cwd maxInterpreters node path ⟨"", zero, args⟩

def searchPaths (path name : Bytes) : List Bytes :=
  (path.splitOn 58).map fun directory => if directory.isEmpty then name else directory ++ 47 :: name

/-- Tries paths in order. A file that is missing or must not be run is passed over; that it must not be
run is reported only if there is no other. -/
def launchFirst (t : Tree) (cwd : Path) (zero : Bytes) (args : List Bytes) :
    (denied : Bool) → (last : Errno) → List Bytes → Except Errno Launch
  | denied, last, [] => .error (if denied then .accessDenied else last)
  | denied, _, path :: rest =>
    match launchAt t cwd path zero args with
    | .ok l => .ok l
    | .error .accessDenied => launchFirst t cwd zero args true .accessDenied rest
    | .error .noEntry => launchFirst t cwd zero args denied .noEntry rest
    | .error .notDirectory => launchFirst t cwd zero args denied .notDirectory rest
    | .error e => .error e

def launch (t : Tree) (cwd : Path) (path : Bytes) (program : Bytes) (args : List Bytes) :
    Except Errno Launch :=
  if program.isEmpty then .error .noEntry
  else if program.contains 47 then launchAt t cwd program program args
  else launchFirst t cwd program args false .noEntry (searchPaths path program)

end PartyBridge.Host
