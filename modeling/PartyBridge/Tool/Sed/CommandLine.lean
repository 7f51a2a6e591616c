import PartyBridge.Tool.Options
import PartyBridge.Tool.Sed.Editor

/-!
# The command line of the stream editor

Scripts stand in arguments or in files; the files are read before the first line is edited.
-/

namespace PartyBridge.Tool.Sed

open Shell (ofBytes toBytes)

def options : OptionTable :=
  { letters :=
      [('b', .none), ('s', .none), ('n', .none), ('r', .none), ('z', .none), ('u', .none), ('E', .none),
        ('e', .required), ('f', .required), ('l', .required), ('i', .optional)]
    words :=
      [("expression", .required, 'e'), ("file", .required, 'f'), ("in-place", .optional, 'i'),
        ("line-length", .required, 'l'), ("null-data", .none, 'z'), ("zero-terminated", .none, 'z'),
        ("quiet", .none, 'n'), ("posix", .none, 'b'), ("silent", .none, 'n'), ("sandbox", .none, 'b'),
        ("separate", .none, 's'), ("unbuffered", .none, 'u'), ("regexp-extended", .none, 'E'),
        ("binary", .none, 'b'), ("follow-symlinks", .none, 'b')]
    anywhere := true }

inductive Source where
  | text (text : List Char)
  | file (name : List Char)
deriving Repr, DecidableEq, Inhabited

structure Plan where
  settings : Settings
  extended : Bool
  sources : List Source
  operands : List (List Char)
deriving Repr, Inhabited

def standardWidth : Nat := 70

def Plan.ofArguments (args : List (List Char)) : Except (List Char) Plan :=
  let usage : List Char := "Usage: sed [OPTION]... \x7bscript-only-if-no-other-script\x7d [input-file]...\n".toList
  match options.parse args with
  | .error e => .error ("sed: ".toList ++ e ++ '\n' :: usage)
  | .ok g =>
    let sources := g.options.filterMap fun (c, value) =>
      if c == 'e' then some (.text value) else if c == 'f' then some (.file value) else none
    let width := match (g.options.reverse.find? fun (c, _) => c == 'l').map Prod.snd with
      | some digits => (digits.takeWhile Char.isDigit).foldl (fun n c => n * 10 + (c.toNat - 48)) 0
      | none => standardWidth
    let inPlace := (g.options.reverse.find? fun (c, _) => c == 'i').map Prod.snd
    let settings : Settings :=
      ⟨g.has 'n', g.has 'u', g.has 's' || inPlace.isSome, inPlace, if g.has 'z' then '\x00' else '\n', width,
        max 1 sources.length⟩
    let extended := g.has 'E' || g.has 'r'
    match sources, g.operands with
    | [], [] => .error usage
    | [], script :: operands => .ok ⟨settings, extended, [.text script], operands⟩
    | sources, operands => .ok ⟨settings, extended, sources, operands⟩

def outletNames (edits : Array Edit) : List (List Char) :=
  let named : Outlet → List (List Char)
    | .file name => [name]
    | _ => []
  (edits.toList.flatMap fun e =>
    match e.action with
    | .write o | .writeFirst o => named o
    | .substitute s => s.outlet.elim [] named
    | _ => []).eraseDups

/-- The text of a fault, and the code that it ends with. Scripts in files are known by their lines. -/
def ScriptFault.message (sources : List Source) (texts : List (List Char)) : ScriptFault → List Char × Nat
  | .plain text => (text, 4)
  | .at script char text =>
    match sources[script - 1]? with
    | some (.file name) =>
      let line := (((texts[script - 1]?).getD []).take (char - 1)).foldl (fun n c => if c == '\n' then n + 1 else n) 1
      ("file ".toList ++ name ++ " line ".toList ++ (toString line).toList ++ ": ".toList ++ text.toList, 1)
    | _ =>
      let isText : Source → Bool
        | .text _ => true
        | .file _ => false
      let number := ((sources.take script).filter isText).length
      ("-e expression #".toList ++ (toString number).toList ++ ", char ".toList ++ (toString char).toList ++
        ": ".toList ++ text.toList, 1)

structure Loading where
  plan : Plan
  /-- Scripts that are known, and sources to come. -/
  known : List (List Char)
  todo : List Source
  /-- The file that is read. -/
  fd : Option Nat
  text : List Char
deriving Inhabited

inductive Running where
  | loading (l : Loading)
  | editing (e : Editor)
  | refusing (code : Nat)
deriving Inhabited

def Loading.finish (l : Loading) : Running × Ask :=
  match readScripts l.plan.extended l.known with
  | .error fault =>
    let (text, code) := fault.message l.plan.sources l.known
    (.refusing code, .write 2 (toBytes ("sed: ".toList ++ text ++ ['\n'])))
  | .ok (edits, quiet) =>
    let files : List (Option Bytes) :=
      if l.plan.operands.isEmpty then [none]
      else l.plan.operands.map fun f => if f == ['-'] then none else some (toBytes f)
    let settings := { l.plan.settings with quiet := l.plan.settings.quiet || quiet }
    (.editing
      { edits
        settings
        phase := .outlets (outletNames edits)
        ranges := Editor.startRanges edits
        files
        current := none
        buffer := []
        ended := false
        number := 0
        space := []
        delimited := true
        held := []
        heldDelimited := true
        replaced := false
        lastPattern := none
        atEnd := none
        shown := false
        appended := edits.toList.filterMap fun e =>
          match e.first, e.action with
          | some (.line 0), .readFile name => some (.file name)
          | _, _ => none
        sources := []
        outlets := []
        unfinished := []
        output := []
        writes := []
        status := 0 }, .more)

def Loading.step (l : Loading) (answer : Answer) : Running × Ask :=
  match l.fd, answer, l.todo with
  | some fd, .data bytes, _ => (.loading { l with text := l.text ++ ofBytes bytes }, .read fd blockSize)
  | some fd, _, _ =>
    let text := if l.text.getLast? == some '\n' then l.text.dropLast else l.text
    (.loading { l with fd := none, text := [], known := l.known ++ [text] }, .close fd)
  | none, .opened fd, _ => (.loading { l with fd := some fd, text := [] }, .read fd blockSize)
  | none, .failed e, _ =>
    (.refusing 4, .write 2 (toBytes ("sed: couldn't open file ".toList ++ l.text ++ ": ".toList ++
      e.reason.toList ++ ['\n'])))
  | none, _, [] => l.finish
  | none, _, .text text :: todo => (.loading { l with known := l.known ++ [text], todo }, .more)
  | none, _, .file name :: todo => (.loading { l with todo, text := name }, .open (toBytes name) .read)

def Running.step (r : Running) (answer : Answer) : Running × Ask :=
  match r with
  | .loading l => l.step answer
  | .editing e =>
    let (e, ask) := e.step answer
    (.editing e, ask)
  | .refusing code => (.refusing code, .exit code)

def start (args : List (List Char)) : Running × Ask :=
  match Plan.ofArguments args with
  | .error text => (.refusing 1, .write 2 (toBytes text))
  | .ok plan => (.loading ⟨plan, [], plan.sources, none, []⟩, .more)

end PartyBridge.Tool.Sed
