import PartyBridge.Host.Exec
import PartyBridge.Shell.Builtin.Arguments
import PartyBridge.Shell.Redirection

/-!
# Builtins that look commands up

A name stands for a keyword, an alias, a function, a builtin, or a program in a directory of the search
path. Programs that have been found are tracked.
-/

namespace PartyBridge.Shell

open Host (Tree Path Errno)

def builtinNames : List String :=
  [".", ":", "[", "alias", "bg", "break", "cd", "chdir", "command", "continue", "echo", "eval", "exec", "exit",
    "export", "false", "fg", "getopts", "hash", "jobs", "kill", "local", "printf", "pwd", "read", "readonly",
    "return", "set", "shift", "test", "times", "trap", "true", "type", "ulimit", "umask", "unalias", "unset",
    "wait"]

def isBuiltin (name : List Char) : Bool :=
  builtinNames.contains (String.ofList name)

def standardPath : List Char :=
  "/usr/local/sbin:/usr/local/bin:/usr/sbin:/usr/bin:/sbin:/bin".toList

/-! ### Programs -/

def programAt (t : Tree) (cwd : Path) (path : Bytes) : Except Errno Bool :=
  match t.find cwd path with
  | .error e => .error e
  | .ok (.free _) => .error .noEntry
  | .ok (.node _ (.tool _)) => .ok true
  | .ok (.node _ (.file index)) => .ok (t.executable index)
  | .ok (.node _ _) => .ok false

/-- Searches directories for a program: the number of the first that has it, or why none does. -/
def searchProgram (t : Tree) (cwd : Path) : Nat → Errno → List Bytes → Except Errno Nat
  | _, e, [] => .error e
  | n, e, path :: rest =>
    match programAt t cwd path with
    | .ok true => .ok n
    | .ok false => searchProgram t cwd (n + 1) .accessDenied rest
    | .error .noEntry | .error .notDirectory => searchProgram t cwd (n + 1) e rest
    | .error e => searchProgram t cwd (n + 1) e rest

def programPaths (path name : List Char) : List Bytes :=
  Host.searchPaths (toBytes path) (toBytes name)

def programFault (name : List Char) (e : Errno) : List Char :=
  name ++ match e with
    | .noEntry | .notDirectory => ": not found".toList
    | e => ": ".toList ++ e.reason.toList

namespace State

def track (st : State) (t : Tree) (cwd : Path) (name : List Char) : Except Errno (Nat × State) :=
  match st.tracked.lookup name with
  | some n => .ok (n, st)
  | none =>
    match searchProgram t cwd 0 .noEntry (programPaths st.path name) with
    | .error e => .error e
    | .ok n => .ok (n, { st with tracked := st.tracked ++ [(name, n)] })

end State

/-! ### What a name stands for -/

inductive CommandKind where
  | keyword
  | aliased (value : List Char)
  | function
  | builtin (special : Bool)
  | program (path : List Char) (tracked : Bool)
  | unknown
deriving Repr, DecidableEq

/-- What a name stands for. A path of its own is searched without regard to what is tracked. -/
def kindOf (t : Tree) (cwd : Path) (st : State) (path : Option (List Char)) (name : List Char) : CommandKind :=
  let found (n : Nat) (path : List Char) : List Char := ofBytes ((programPaths path name)[n]?.getD [])
  if (Token.keyword? name).isSome then .keyword
  else
    match st.aliases.lookup name, if path.isNone then st.tracked.lookup name else none with
    | some value, _ => .aliased value
    | none, some n => .program (found n st.path) true
    | none, none =>
      if name.contains '/' then
        match t.find cwd (toBytes name) with
        | .ok (.node ..) => .program name false
        | _ => .unknown
      else if (st.functions.lookup name).isSome then .function
      else if isBuiltin name then .builtin (isSpecialBuiltin name)
      else
        let path := path.getD st.path
        match searchProgram t cwd 0 .noEntry (programPaths path name) with
        | .ok n => .program (found n path) false
        | .error _ => .unknown

def describeCommand (kind : CommandKind) (name : List Char) : List Char × Nat :=
  match kind with
  | .keyword => (name ++ " is a shell keyword\n".toList, 0)
  | .aliased value => (name ++ " is an alias for ".toList ++ value ++ ['\n'], 0)
  | .function => (name ++ " is a shell function\n".toList, 0)
  | .builtin special =>
    (name ++ (if special then " is a special shell builtin\n" else " is a shell builtin\n").toList, 0)
  | .program path tracked =>
    (name ++ (if tracked then " is a tracked alias for " else " is ").toList ++ path ++ ['\n'], 0)
  | .unknown => (name ++ ": not found\n".toList, 127)

/-- A name as it would be used, and the status. -/
def nameCommand (kind : CommandKind) (name : List Char) : List Char × Nat :=
  match kind with
  | .aliased value => ("alias ".toList ++ name ++ '=' :: singleQuoted value ++ ['\n'], 0)
  | .program path _ => (path ++ ['\n'], 0)
  | .unknown => ([], 127)
  | _ => (name ++ ['\n'], 0)

namespace State

/-- `type`. -/
def describeAll (st : State) (t : Tree) (cwd : Path) (names : List (List Char)) : State :=
  let told := names.map fun name => describeCommand (kindOf t cwd st none name) name
  (st.withStatus (told.foldl (fun s (_, status) => s ||| status) 0)).say (told.flatMap Prod.fst)

/-- `command` with options that only ask. -/
def describeOne (st : State) (t : Tree) (cwd : Path) (args : List (List Char)) : State :=
  match plainOptions "pvV" args with
  | .error text => st.dies text
  | .ok g =>
    match g.operands with
    | [] => st.withStatus 0
    | name :: _ =>
      let kind := kindOf t cwd st (if g.has 'p' then some standardPath else none) name
      if g.has 'v' || g.has 'V' then
        let (text, status) := if g.has 'V' then describeCommand kind name else nameCommand kind name
        (st.withStatus status).say text
      else st.withStatus 0

/-! ### Tables in the order of a hash -/

def byHash {α : Type} (size : Nat) (entries : List (List Char × α)) : List (List Char × α) :=
  let hash (name : List Char) : Nat := (name.headD '\x00').toNat * 16 + name.foldl (fun n c => n + c.toNat) 0
  entries.mergeSort fun a b => hash a.1 % size ≤ hash b.1 % size

/-- `hash`. -/
def trackAll (st : State) (t : Tree) (cwd : Path) (args : List (List Char)) : State :=
  match plainOptions "r" args with
  | .error text => st.dies text
  | .ok g =>
    let st := st.withStatus 0
    if g.has 'r' then { st with tracked := [] }
    else if g.operands.isEmpty then
      st.say ((byHash 31 st.tracked).flatMap fun (name, n) =>
        ofBytes ((programPaths st.path name)[n]?.getD []) ++ ['\n'])
    else
      g.operands.foldl
        (fun st name =>
          if name.contains '/' || isBuiltin name || (st.functions.lookup name).isSome then st
          else
            match { st with tracked := st.tracked.filter fun (n, _) => n != name }.track t cwd name with
            | .ok (_, st) => st
            | .error e => (st.withStatus 1).complain (programFault name e))
        st

def aliasLine (name value : List Char) : List Char :=
  name ++ '=' :: singleQuoted value ++ ['\n']

def aliasAll (st : State) (args : List (List Char)) : State :=
  let st := st.withStatus 0
  if args.isEmpty then st.say ((byHash 39 st.aliases).flatMap fun (name, value) => aliasLine name value)
  else
    args.foldl
      (fun st arg =>
        let name := arg.take 1 ++ (arg.drop 1).takeWhile (· != '=')
        if name.length < arg.length then
          let value := arg.drop (name.length + 1)
          if (st.aliases.lookup name).isSome then
            { st with aliases := st.aliases.map fun (n, old) => if n == name then (n, value) else (n, old) }
          else { st with aliases := st.aliases ++ [(name, value)] }
        else
          match st.aliases.lookup name with
          | some value => st.say (aliasLine name value)
          | none => (st.withStatus 1).report ("alias: ".toList ++ name ++ " not found\n".toList))
      st

def unaliasAll (st : State) (args : List (List Char)) : State :=
  match plainOptions "a" args with
  | .error text => st.dies text
  | .ok g =>
    let st := st.withStatus 0
    if g.has 'a' then { st with aliases := [] }
    else
      g.operands.foldl
        (fun st name =>
          if (st.aliases.lookup name).isSome then
            { st with aliases := st.aliases.filter fun (n, _) => n != name }
          else (st.withStatus 1).report ("unalias: ".toList ++ name ++ " not found\n".toList))
        st

end State

end PartyBridge.Shell
