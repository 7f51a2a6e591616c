import PartyBridge.Options.Parameter

/-!
# Reading a command line

Arguments are read from left to right, then variables of the environment fill in what was not given,
and last the positional parameters have to be there. A parameter that takes a value is examined when
the next parameter starts, so a fault of the next argument's shape is reported first.
-/

namespace PartyBridge.Options

/-- A command line read so far: what was given, the parameter that is met but not examined yet with
its value, whether that one still waits for its value, the positional parameters to come, and whether
only those are to come. -/
structure Scan where
  draft : Draft
  held : Option (Parameter × Option Bytes)
  waiting : Bool
  positionals : List Parameter
  onlyPositionals : Bool
deriving Repr, DecidableEq

namespace Scan

def start : Scan :=
  ⟨.empty, none, false, Parameter.positionals, false⟩

def settle (s : Scan) : Except Refusal Scan :=
  match s.held with
  | none => .ok s
  | some (p, none) => .error (.valueRequired p)
  | some (p, some value) =>
    (s.draft.give p value).map fun draft => { s with draft, held := none }

/-- Holds a parameter after the one before it has been examined. -/
def hold (s : Scan) (p : Parameter) (value : Option Bytes) : Except Refusal Scan :=
  s.settle.map fun s => { s with held := some (p, value), waiting := value.isNone }

def take (s : Scan) (p : Parameter) (value : Bytes) : Except Refusal Scan := do
  let s ← s.settle
  return { s with draft := ← s.draft.give p value, waiting := false }

/-- The name and the value of an option's text behind its dashes. -/
def cutAtEquals (text : Bytes) : Bytes × Option Bytes :=
  let name := text.takeWhile (· != 61)
  (name, if name.length = text.length then none else some (text.drop (name.length + 1)))

def longOption (s : Scan) (text : Bytes) : Except Refusal Scan :=
  let (name, value) := cutAtEquals text
  match Utf8.decode? name >>= Parameter.ofName? with
  | none => .error (.unknownArgument ("--" ++ Utf8.decodeLossy name))
  | some p =>
    match p.takesValue, value with
    | true, some value => s.take p value
    | true, none => s.hold p none
    | false, some value => .error (.unexpectedValue (Utf8.decodeLossy value) p)
    | false, none => s.take p (Utf8.encode "true")

/-- An argument that starts with one dash: each letter is a switch of its own. -/
def letters (s : Scan) (text : Bytes) : Except Refusal Scan :=
  match Utf8.pieces text with
  | .char c :: _ =>
    match Parameter.ofLetter? c with
    | some p => s.take p (Utf8.encode "true")
    | none => .error (.unknownArgument ("-" ++ c.toString))
  | _ => .error (.unknownArgument ("-" ++ Utf8.decodeLossy text))

def positional (s : Scan) (argument : Bytes) : Except Refusal Scan :=
  match s.positionals with
  | [] => .error (.unknownArgument (Utf8.decodeLossy argument))
  | p :: rest => (s.hold p (some argument)).map fun s => { s with positionals := rest }

/-- Whether the next argument is a value whatever it looks like. -/
def takesAnything (s : Scan) : Bool :=
  s.waiting && s.held.any fun (p, _) => p == .engineArg

def value (s : Scan) (argument : Bytes) : Except Refusal Scan :=
  match s.waiting && !s.onlyPositionals, s.held with
  | true, some (p, _) => .ok { s with held := some (p, some argument), waiting := false }
  | _, _ => s.positional argument

def argument (s : Scan) (text : Bytes) : Except Refusal Scan :=
  if s.onlyPositionals || s.takesAnything then s.value text
  else
    match text with
    | [45, 45] => .ok { s with onlyPositionals := true }
    | 45 :: 45 :: rest => s.longOption rest
    | 45 :: b :: rest => s.letters (b :: rest)
    | _ => s.value text

end Scan

def lookupVariable (environment : List (String × Bytes)) (name : String) : Option Bytes :=
  environment.lookup name

/-- Fills in a parameter from its variable, if it was not given. -/
def fillIn (environment : List (String × Bytes)) (d : Draft) (p : Parameter) : Except Refusal Draft :=
  if d.has p then .ok d
  else
    match p.standIn? >>= lookupVariable environment with
    | some value => d.assign p value
    | none => .ok d

def readCommandLine (arguments : List Bytes) (environment : List (String × Bytes)) :
    Except Refusal Settings := do
  let scan ← arguments.foldlM Scan.argument Scan.start
  let scan ← scan.settle
  let draft ← Parameter.options.foldlM (fillIn environment) scan.draft
  draft.complete

end PartyBridge.Options
