import PartyBridge.Host.Errno
import PartyBridge.Text.Utf8

/-!
# A tree of files

Nodes are kept by their full path, a list of names from the root. Files are kept apart from the names
they have, so that an open file outlives its name.
-/

namespace PartyBridge.Host

abbrev Path := List Bytes

/-- A file that is not kept on a disk: it swallows what is written, gives zeros, is always full, or
stands for a descriptor of the process that opens it. -/
inductive Device where
  | null
  | zero
  | full
  | descriptor (n : Nat)
deriving Repr, DecidableEq, Inhabited

/-- What a path leads to. Tools are programs of the system, known by their name. -/
inductive Node where
  | directory
  | file (index : Nat)
  | link (target : Bytes)
  | device (device : Device)
  | tool (name : String)
deriving Repr, DecidableEq, Inhabited

structure FileData where
  bytes : ByteArray
  executable : Bool
  changed : Nat
deriving Inhabited

structure Tree where
  nodes : List (Path × Node)
  files : Array FileData
deriving Inhabited

/-- Where a path leads: to a node, or to a free name in a directory. -/
inductive Found where
  | node (path : Path) (node : Node)
  | free (path : Path)
deriving Repr, DecidableEq

def pathNames (path : Bytes) : List Bytes :=
  go path [] []
where
  go : Bytes → Bytes → List Bytes → List Bytes
    | [], name, acc => (name.reverse :: acc).reverse
    | b :: rest, name, acc =>
      if b = 47 then go rest [] (name.reverse :: acc) else go rest (b :: name) acc

def pathText (path : Path) : Bytes :=
  if path.isEmpty then [47] else path.flatMap fun name => 47 :: name

namespace Tree

def empty : Tree :=
  ⟨[], #[]⟩

/-- The node of a full path that no link stands in. -/
def node? (t : Tree) (path : Path) : Option Node :=
  if path.isEmpty then some .directory else t.nodes.lookup path

def put (t : Tree) (path : Path) (node : Node) : Tree :=
  { t with nodes := t.nodes.filter (fun (p, _) => p != path) ++ [(path, node)] }

def remove (t : Tree) (path : Path) : Tree :=
  { t with nodes := t.nodes.filter fun (p, _) => p != path }

def putFile (t : Tree) (path : Path) (bytes : ByteArray) (executable : Bool) : Tree :=
  let index := t.files.size
  { t.put path (.file index) with files := t.files.push ⟨bytes, executable, 0⟩ }

/-- Puts a directory at a path, with those it stands in. -/
def putDirectory (t : Tree) (path : Path) : Tree :=
  (List.range path.length).foldl
    (fun t n =>
      let part := path.take (n + 1)
      match t.node? part with
      | some _ => t
      | none => t.put part .directory)
    t

def contents (t : Tree) (index : Nat) : ByteArray :=
  (t.files[index]?.map FileData.bytes).getD .empty

def write (t : Tree) (index : Nat) (bytes : ByteArray) : Tree :=
  { t with files := t.files.modify index fun file => { file with bytes } }

def touch (t : Tree) (index time : Nat) : Tree :=
  { t with files := t.files.modify index fun file => { file with changed := time } }

def changed (t : Tree) (index : Nat) : Nat :=
  (t.files[index]?.map FileData.changed).getD 0

def executable (t : Tree) (index : Nat) : Bool :=
  (t.files[index]?.map FileData.executable).getD false

def setExecutable (t : Tree) (index : Nat) (executable : Bool) : Tree :=
  { t with files := t.files.modify index fun file => { file with executable } }

def list (t : Tree) (directory : Path) : List Bytes :=
  t.nodes.filterMap fun (p, _) =>
    if p.dropLast == directory && !p.isEmpty then p.getLast? else none

def maxName : Nat := 255

def maxPath : Nat := 4095

def maxLinks : Nat := 40

/-- Follows names from a directory; `follow` tells whether a link at the end is followed, and `links` how
many more may be. The allowance bounds how many names are followed. -/
def walk (t : Tree) (follow : Bool) : Nat → Nat → Path → List Bytes → Except Errno Found
  | 0, _, _, _ => .error .tooManyLinks
  | _ + 1, _, base, [] =>
    match t.node? base with
    | some node => .ok (.node base node)
    | none => .error .noEntry
  | fuel + 1, links, base, name :: rest =>
    match t.node? base with
    | some .directory =>
      if name.isEmpty || name == [46] then walk t follow fuel links base rest
      else if name == [46, 46] then walk t follow fuel links base.dropLast rest
      else if maxName < name.length then .error .nameTooLong
      else
        let path := base ++ [name]
        match t.node? path with
        | none => if rest.isEmpty then .ok (.free path) else .error .noEntry
        | some (.link target) =>
          if rest.isEmpty && !follow then .ok (.node path (.link target))
          else if links = 0 then .error .tooManyLinks
          else
            let names := pathNames target
            walk t follow fuel (links - 1) (if target.head? == some 47 then [] else base) (names ++ rest)
        | some _ => walk t follow fuel links path rest
    | some _ => .error .notDirectory
    | none => .error .noEntry

/-- Where a path leads from a working directory; a link at its end is followed if asked for. -/
def look (t : Tree) (follow : Bool) (cwd : Path) (path : Bytes) : Except Errno Found :=
  if path.isEmpty then .error .noEntry
  else if maxPath < path.length then .error .nameTooLong
  else
    walk t follow ((maxLinks + 1) * (maxPath + 2)) maxLinks (if path.head? == some 47 then [] else cwd)
      (pathNames path)

def find (t : Tree) (cwd : Path) (path : Bytes) : Except Errno Found :=
  t.look true cwd path

def regular? (t : Tree) (cwd : Path) (path : Bytes) : Option Nat :=
  match t.find cwd path with
  | .ok (.node _ (.file index)) => some index
  | _ => none

def isRegular (t : Tree) (cwd : Path) (path : Bytes) : Bool :=
  match t.find cwd path with
  | .ok (.node _ (.file _)) | .ok (.node _ (.tool _)) => true
  | _ => false

def isDirectory (t : Tree) (cwd : Path) (path : Bytes) : Bool :=
  match t.find cwd path with
  | .ok (.node _ .directory) => true
  | _ => false

end Tree

end PartyBridge.Host
