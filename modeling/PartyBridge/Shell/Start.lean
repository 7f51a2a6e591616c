import PartyBridge.Shell.Builtin.Lookup
import PartyBridge.Shell.Builtin.Variables

/-!
# How a shell starts

A shell runs the commands of an argument, of a file, or of its standard input. Its arguments set options;
its environment gives it variables.
-/

namespace PartyBridge.Shell

open Host (Machine Path)

/-! ### Arguments -/

structure Startup where
  command : Bool
  flags : List Flag
  rest : List (List Char)
  fault : Option (List Char)
deriving Repr, Inhabited

namespace Startup

def setFlag (s : Startup) (flag : Flag) (on : Bool) : Startup :=
  let flags := s.flags.filter (· != flag)
  { s with flags := if on then flag :: flags else flags }

def readLetters (on : Bool) : List Char → Startup → Startup
  | [], s => s
  | 'c' :: letters, s => readLetters on letters { s with command := true }
  | 'l' :: letters, s => readLetters on letters s
  | 'o' :: letters, s =>
    match s.rest with
    | [] => readLetters on letters s
    | name :: rest =>
      match Flag.ofName? name with
      | some flag => readLetters on letters ({ s with rest }.setFlag flag on)
      | none => { s with fault := some ("Illegal option -o ".toList ++ name) }
  | c :: letters, s =>
    match Flag.ofLetter? c with
    | some flag => readLetters on letters (s.setFlag flag on)
    | none => { s with fault := some ("Illegal option -".toList ++ [c]) }

/-- Reads options up to the first argument that is none. -/
def read : Nat → Startup → Startup
  | 0, s => s
  | fuel + 1, s =>
    if s.fault.isSome then s
    else
      match s.rest with
      | ['-'] :: rest | ['-', '-'] :: rest => { s with rest }
      | ('-' :: letters) :: rest => read fuel (readLetters true letters { s with rest })
      | ('+' :: letters) :: rest => read fuel (readLetters false letters { s with rest })
      | _ => s

def ofArguments (args : List (List Char)) : Startup :=
  read (args.length + 1) ⟨false, [], args, none⟩

end Startup

/-! ### The state at the start -/

/-- The working directory as the environment names it, if that is right, and else by its path. -/
def startPlace (m : Machine) (cwd : Path) (env : List (List Char × List Char)) : List Char :=
  let plain := ofBytes (Host.pathText cwd)
  match env.lookup "PWD".toList with
  | some ('/' :: rest) =>
    match m.tree.find [] (toBytes ('/' :: rest)) with
    | .ok (.node path .directory) => if path == cwd then '/' :: rest else plain
    | _ => plain
  | _ => plain

def startVariables (parent : Nat) (place : List Char) (env : List (List Char × List Char)) : List Variable :=
  let own : List (String × List Char) :=
    [("PATH", standardPath), ("PS1", "# ".toList), ("PS2", "> ".toList), ("PS4", "+ ".toList)]
  let given := env.filter fun (name, _) => isName name
  let standing := own.filter fun (name, _) => (given.lookup name.toList).isNone
  let put (vars : List Variable) (name value : List Char) (exported : Bool) : List Variable :=
    if vars.any fun v => v.name == name then
      vars.map fun v => if v.name == name then { v with value := some value, exported := v.exported || exported } else v
    else vars ++ [⟨name, some value, exported, false⟩]
  let vars := given.foldl (fun vars (name, value) => put vars name value true) []
  let vars := standing.foldl (fun vars (name, value) => put vars name.toList value false) vars
  let vars := put vars "IFS".toList [' ', '\t', '\n'] false
  let vars := put vars "OPTIND".toList ['1'] false
  let vars := put vars "PPID".toList (toString parent).toList false
  put vars "PWD".toList place true

structure Birth where
  pid : Nat
  parent : Nat
  cwd : Path
  env : List (List Char × List Char)
  ignored : List Nat
  start : Nat
deriving Inhabited

def Birth.state (b : Birth) (m : Machine) (zero : List Char) (params : List (List Char)) (flags : List Flag)
    (stack : List Task) : State :=
  let place := startPlace m b.cwd b.env
  { bindings := startVariables b.parent place b.env
    zero, params
    optionIndex := 1
    optionOffset := none
    functions := []
    aliases := []
    tracked := []
    place
    traps := []
    ignored := b.ignored
    flags
    status := 0
    kept := none
    substituted := 0
    outputs := []
    lastChild := none
    self := b.pid
    line := 0
    speaker := none
    readLine := 1
    caught := []
    jobs := []
    jobOrder := []
    locals := []
    outerLoops := 0
    mask := 18
    stack }

/-- The text of a file without the bytes that no text has. -/
def scriptText (bytes : ByteArray) : List Char :=
  (ofBytes bytes.toList).filter (· != '\x00')

def Birth.shell (b : Birth) (m : Machine) (name : List Char) (args : List (List Char)) : State :=
  let s := Startup.ofArguments args
  let flags := if s.rest.isEmpty && !s.command then (s.setFlag .stdin true).flags else s.flags
  let wanted := flags.contains .monitor
  let flags := flags.filter (· != .monitor)
  let refuse (text : List Char) : State := (b.state m name [] [] [.finish 2]).complain text
  let begin (zero : List Char) (params : List (List Char)) (stack : List Task) : State :=
    let st := b.state m zero params flags stack
    if wanted then st.complain "can't access tty; job control turned off".toList else st
  let reads := flags.contains .stdin
  match s.fault, s.command, s.rest with
  | some text, _, _ => refuse text
  | none, true, [] => refuse "-c requires an argument".toList
  | none, true, command :: rest =>
    let script := Task.script (.ofText command) .main false 0
    begin (rest.headD name) (rest.drop 1) (script :: if reads then [.listen (.ofText [])] else [])
  | none, false, rest =>
    match if reads then [] else rest with
    | [] => begin name rest [.listen (.ofText [])]
    | file :: params =>
      match m.openPath b.cwd [] (toBytes file) .read with
      | .error e => refuse (openFault false file e)
      | .ok _ =>
        let text := (m.tree.regular? b.cwd (toBytes file)).elim [] fun index => scriptText (m.tree.contents index)
        begin file params [.script (.ofText text) .main false 0]

end PartyBridge.Shell
