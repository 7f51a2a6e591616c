import PartyBridge.Driver.Error
import PartyBridge.Host.Tree
import PartyBridge.Journal.Paths

/-!
# Finding a party's driver

The driver of a party is the file that bears the party's name, or else the least file with that name and
one extension. Only regular files count, and links are followed.
-/

namespace PartyBridge.Driver

open Host (Tree Path)

structure Entry where
  name : Bytes
  regular : Bool
deriving Repr, DecidableEq, Inhabited

/-- Whether a name is a stem, a dot and an extension without dots. -/
def hasStem (stem name : Bytes) : Bool :=
  match (name.drop stem.length) with
  | 46 :: extension => stem.isPrefixOf name && !extension.contains 46
  | _ => false

/-- The least of some names, byte by byte. -/
def leastName : List Bytes → Option Bytes
  | [] => none
  | name :: rest =>
    match leastName rest with
    | none => some name
    | some other => if other < name then some other else some name

/-- The name of a party's driver among the entries of a directory. -/
def chooseDriver (entries : List Entry) (party : Nat) : Option Bytes :=
  let exact := Utf8.encode (stem party)
  let files := (entries.filter Entry.regular).map Entry.name
  if files.contains exact then some exact else leastName (files.filter (hasStem exact))

def entriesOf (t : Tree) (cwd : Path) (dir : Bytes) : List Entry :=
  match t.find cwd dir with
  | .ok (.node path .directory) =>
    (t.list path).map fun name => ⟨name, t.isRegular path name⟩
  | _ => []

/-- What a party may find in a directory. An empty path leads to no directory, and only the party's own
name can be looked up. -/
def entriesFor (t : Tree) (cwd : Path) (dir : Bytes) (party : Nat) : List Entry :=
  match dir with
  | [] => let own := Utf8.encode (stem party); [⟨own, t.isRegular cwd own⟩]
  | _ => entriesOf t cwd dir

/-- Where drivers are looked for, and the command that runs them; without one they run by themselves. -/
structure Loader where
  dir : Bytes
  command : Option (List String)
deriving Repr, DecidableEq, Inhabited

namespace Loader

def create (dir : Bytes) (command : Option (List String)) : Except DriverError Loader :=
  match command with
  | some [] | some ("" :: _) => .error (.invalidCommand "interpreter command is empty")
  | _ => .ok ⟨dir, command⟩

def locate (l : Loader) (t : Tree) (cwd : Path) (party : Nat) : Except DriverError Bytes :=
  match chooseDriver (entriesFor t cwd l.dir party) party with
  | some name => .ok (Journal.joinPath l.dir name)
  | none => .error (.notFound (stem party) (Utf8.decodeLossy l.dir))

end Loader

structure Script where
  path : Bytes
  command : Option (List String)
  party : Nat
  program : String
deriving Repr, DecidableEq, Inhabited

namespace Script

def describe (s : Script) : String :=
  Utf8.decodeLossy s.path

def commandLine (s : Script) : Bytes × List Bytes :=
  let operands := [Utf8.encode (Text.decimalNat s.party), Utf8.encode s.program]
  match s.command with
  | some (program :: args) => (Utf8.encode program, args.map Utf8.encode ++ s.path :: operands)
  | _ => (s.path, operands)

def environment (s : Script) : List (String × String) :=
  [("VIADUCT_PARTY", Text.decimalNat s.party), ("VIADUCT_PROGRAM", s.program)]

end Script

def Loader.load (l : Loader) (t : Tree) (cwd : Path) (party : Nat) (program : String) :
    Except DriverError Script :=
  (l.locate t cwd party).map fun path => ⟨path, l.command, party, program⟩

end PartyBridge.Driver
