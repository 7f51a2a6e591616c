import PartyBridge.Host.Exec
import PartyBridge.Shell.Print
import PartyBridge.Shell.Start

/-!
# Programs

What the tools of the system do once they have been found, and the tree in which they stand.
-/

namespace PartyBridge.Host

open Shell (ofBytes toBytes)

/-- An environment: names and values as text of one character for each byte. -/
abbrev Environment := List (List Char × List Char)

/-! ### What tools do -/

/-- A tool that is told what to do by its arguments alone, from a moment on. -/
def plainTool (start : Nat) (tool : String) (args : List (List Char)) : Body :=
  let running : Tool.Running × Tool.Ask → Body := fun (r, ask) => .tool r ask
  match tool with
  | "cat" => running (Tool.Running.cat args)
  | "head" => running (Tool.Running.head args)
  | "tr" => running (Tool.Running.tr args)
  | "sed" => running (Tool.Running.edit args)
  | "false" => running (Tool.Running.text [] 1)
  | "echo" => running (Tool.Running.text (Shell.plainEchoText args true false) 0)
  | "printf" =>
    match args with
    | format :: args =>
      let (text, _, status) := Shell.printfText format args
      running (Tool.Running.text text (min status 1))
    | [] => running (Tool.Running.complaint (Tool.advice "printf" "missing operand".toList) 1)
  | "sleep" =>
    match Tool.napOf args with
    | .error text => running (Tool.Running.complaint text 1)
    | .ok (.nanoseconds n) => .sleep (some (start + n))
    | .ok .forever => .sleep none
  | _ => running (Tool.Running.text [] 0)

/-- What is left of the arguments of `env` behind its assignments, and the environment with them. -/
def assignedEnvironment : Environment → List (List Char) → Environment × List (List Char)
  | env, [] => (env, [])
  | env, arg :: rest =>
    if arg.contains '=' then
      let name := arg.takeWhile (· != '=')
      let value := arg.drop (name.length + 1)
      assignedEnvironment (env.filter (fun (n, _) => n != name) ++ [(name, value)]) rest
    else (env, arg :: rest)

/-- What a tool does for a process. `env` becomes the program that it names; the allowance bounds how
often. -/
def toolBody (m : Machine) : Nat → Shell.Birth → Launch → Body
  | fuel, b, l =>
    let args := l.args.map ofBytes
    match l.tool with
    | "sh" => .shell (b.shell m (ofBytes l.zero) args)
    | "env" =>
      match assignedEnvironment b.env args with
      | (env, []) =>
        let (r, ask) := Tool.Running.text (env.flatMap fun (name, value) => name ++ '=' :: value ++ ['\n']) 0
        .tool r ask
      | (env, program :: args) =>
        let path := (env.lookup "PATH".toList).getD "/bin:/usr/bin".toList
        match fuel, launch m.tree b.cwd (toBytes path) (toBytes program) (args.map toBytes) with
        | fuel + 1, .ok l => toolBody m fuel { b with env } l
        | _, .error e =>
          let code := if e = .noEntry then 127 else 126
          let text := "env: ".toList ++ Tool.quoted program ++ ": ".toList ++ e.reason.toList ++ ['\n']
          let (r, ask) := Tool.Running.complaint text code
          .tool r ask
        | 0, .ok _ => .tool (.print [] 0) .more
    | tool => plainTool b.start tool args

def maxEnv : Nat := 16

def programBody (m : Machine) (b : Shell.Birth) (l : Launch) : Body :=
  toolBody m maxEnv b l

/-! ### The tree of the system -/

def toolNames : List String :=
  ["sh", "dash", "cat", "sleep", "tr", "sed", "head", "true", "false", "echo", "printf", "env"]

def deviceNames : List (String × Device) :=
  [("null", .null), ("zero", .zero), ("full", .full), ("stdin", .descriptor 0), ("stdout", .descriptor 1),
    ("stderr", .descriptor 2)]

def standardTree : Tree :=
  let bytes (s : String) : Bytes := Utf8.encode s
  let t := ((Tree.empty.putDirectory [bytes "usr", bytes "bin"]).putDirectory [bytes "tmp"]).putDirectory
    [bytes "dev", bytes "fd"]
  let t := t.put [bytes "bin"] (.link (bytes "usr/bin"))
  let t := deviceNames.foldl (fun t (name, device) => t.put [bytes "dev", bytes name] (.device device)) t
  let t := (List.range 10).foldl
    (fun t n => t.put [bytes "dev", bytes "fd", bytes (toString n)] (.device (.descriptor n))) t
  toolNames.foldl
    (fun t name =>
      t.put [bytes "usr", bytes "bin", bytes name] (.tool (if name == "dash" then "sh" else name)))
    t

def Machine.boot (tree : Tree) : Machine :=
  ⟨0, tree, #[], #[], [], 100, []⟩

/-- How long it takes until a new program runs its first step, in nanoseconds. -/
def startDelay : Nat := 300000

/-- The search path where there is none in the environment. -/
def defaultPath : List Char :=
  "/bin:/usr/bin".toList

/-- Starts a program as a child of the player, in a group of its own if asked for. -/
def Machine.spawn (m : Machine) (cwd : Path) (env : Environment) (program : Bytes) (args : List Bytes)
    (fds : List (Nat × Fd)) (ownGroup : Bool) : Except Errno (Machine × Nat) :=
  let path := (env.lookup "PATH".toList).getD defaultPath
  match launch m.tree cwd (toBytes path) program args with
  | .error e => .error e
  | .ok l =>
    let pid := m.nextPid
    let start := m.clock + startDelay
    let body := programBody m ⟨pid, player, cwd, env, [], start⟩ l
    let process : Process :=
      ⟨pid, player, if ownGroup then pid else player, fds, cwd, [], start, none, body⟩
    .ok ({ m with processes := m.processes ++ [process], nextPid := pid + 1 }, pid)

end PartyBridge.Host
