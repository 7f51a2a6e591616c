import PartyBridge.Shell.Arithmetic
import PartyBridge.Shell.Fields
import PartyBridge.Shell.State

/-!
# Expansion of words

Parameters, commands and arithmetic are replaced by their values, from left to right. The outputs of the
commands in a word are given; if there are fewer than needed, expansion stops and tells which command has
to run.
-/

namespace PartyBridge.Shell

inductive ExpansionStop where
  | fault (text : List Char)
  /-- The processor refused a division. -/
  | crash
  /-- A command has to run, for a shell with this state. -/
  | needs (body : Command) (st : State)
deriving Inhabited

structure ExpandMode where
  /-- Into fields and file names. -/
  full : Bool := false
  /-- With the home directory behind a tilde. -/
  tilde : Bool := false
  /-- As an assignment, where tildes also count behind colons. -/
  assignment : Bool := false
  /-- As a pattern, which keeps its quoting. -/
  pattern : Bool := false
  /-- As the word of a parameter. -/
  word : Bool := false
  quoted : Bool := false
  /-- Without any effect. -/
  discard : Bool := false
deriving Repr, DecidableEq, Inhabited

namespace ExpandMode

def keepsQuotes (mode : ExpandMode) : Bool :=
  mode.full || mode.pattern

def fields : ExpandMode :=
  { full := true, tilde := true }

def assign : ExpandMode :=
  { assignment := true }

def single : ExpandMode :=
  { tilde := true }

def pat : ExpandMode :=
  { tilde := true, pattern := true }

def document : ExpandMode :=
  { quoted := true }

end ExpandMode

structure Expanding where
  st : State
  out : Array Cell
  regions : List Region
  outputs : List (List Char)
deriving Inhabited

namespace Expanding

def record (e : Expanding) (start : Nat) (nulOnly : Bool) : Expanding :=
  { e with regions := e.regions ++ [⟨start, e.out.size, nulOnly⟩] }

def valueCell (mode : ExpandMode) (c : Char) : Cell :=
  let special := isReserved c || (mode.quoted && (isActiveChar c || c == '\x5c'))
  if mode.keepsQuotes && special then .literal c else .char c

def value (mode : ExpandMode) (e : Expanding) (text : List Char) : Expanding :=
  { e with out := text.foldl (fun out c => out.push (valueCell mode c)) e.out }

def textFrom (e : Expanding) (start : Nat) : List Char :=
  Cell.text (e.out.extract start e.out.size).toList

def truncate (e : Expanding) (start : Nat) : Expanding :=
  { e with out := e.out.extract 0 start, regions := Region.cutAt e.regions start }

end Expanding

def State.flagLetters (st : State) : List Char :=
  Flag.all.reverse.filterMap fun (flag, _, letter) => if st.has flag then letter else none

/-- What stands between parameters when all are asked for; nothing if there is no separator. -/
def State.joint (st : State) (mode : ExpandMode) (name : List Char) : Option Char :=
  let first : Option Char :=
    match st.get? ['I', 'F', 'S'] with
    | some (c :: _) => some c
    | some [] => none
    | none => some ' '
  if mode.quoted then if mode.full && name == ['@'] then some '\x00' else first
  else if mode.full then if (st.get? ['I', 'F', 'S']).isSome then some '\x00' else some ' '
  else first

def State.param? (st : State) (mode : ExpandMode) (name : List Char) : Option (List Char) :=
  let number (n : Nat) : List Char := (toString n).toList
  match name with
  | ['$'] => some (number st.self)
  | ['?'] => some (number st.status)
  | ['#'] => some (number st.params.length)
  | ['!'] => st.lastChild.map number
  | ['-'] => some st.flagLetters
  | ['@'] | ['*'] =>
    let joint := (st.joint mode name).elim [] fun c => [c]
    some (joint.intercalate st.params)
  | c :: _ =>
    if c.isDigit then
      let n := name.foldl (fun n c => n * 10 + (c.toNat - 48)) 0
      if n = 0 then some st.zero else st.params[n - 1]?
    else st.get? name
  | [] => none

def homeOf (st : State) (user : List Char) : Option (List Char) :=
  if user.isEmpty then st.get? "HOME".toList
  else if user == "root".toList then some "/root".toList
  else none

/-- The directory that a tilde stands for, and how many parts spell it. -/
def tildeAt (st : State) (mode : ExpandMode) (parts : Word) : Option (List Char × Nat) :=
  match parts with
  | .char '~' :: rest =>
    let stops : Part → Bool := fun
      | .char c => c == '/' || (mode.assignment && c == ':')
      | _ => false
    let name := rest.takeWhile fun p => !stops p
    match Word.plain? name with
    | some user => (homeOf st user).map fun home => (home, name.length + 1)
    | none => none
  | _ => none

/-! ### Trimming -/

def upToNul (text : List Char) : List Char :=
  text.takeWhile (· != '\x00')

/-- How many characters at the start of a text are taken away because they match a pattern. -/
def trimmedStart (pattern text : List Char) (longest : Bool) : Option Nat :=
  let whole := (upToNul text).length
  let places := List.range (if longest then text.length + 1 else whole + 1)
  let places := if longest then places.reverse else places
  places.find? fun n => matchPattern pattern (upToNul (text.take n))

/-- How many characters at the start of a text are left because those behind them match a pattern. -/
def trimmedEnd (pattern text : List Char) (longest : Bool) : Option Nat :=
  let whole := (upToNul text).length
  let places := List.range (if longest then whole + 1 else text.length + 1)
  let places := if longest then places else places.reverse
  places.find? fun n => matchPattern pattern (upToNul (text.drop n))

/-! ### Words -/

def ArithFault.stop (text : List Char) : ArithFault → ExpansionStop
  | .illegalNumber bad => .fault ("Illegal number: ".toList ++ bad)
  | .divisionByZero => .fault ("arithmetic expression: division by zero: \"".toList ++ text ++ ['"'])
  | .expecting what =>
    .fault ("arithmetic expression: expecting ".toList ++ what.toList ++ ": \"".toList ++ text ++ ['"'])
  | .fixed name => .fault (name ++ ": is read only".toList)
  | .overflow => .crash

/-- The value of an expression; variables that it assigns change. -/
def Expanding.calculate (e : Expanding) (text : List Char) : Except ExpansionStop (Int × Expanding) :=
  match evaluate ⟨e.st.get?, e.st.isFixed⟩ text with
  | .error f => .error (f.stop text)
  | .ok (n, assigned) =>
    let st := assigned.foldr (fun (name, n) (st : State) => st.set name (toString n).toList) e.st
    .ok (n, { e with st })

def missing {α : Type} (name : List Char) (message : Option (List Char)) (orNull : Bool) :
    Except ExpansionStop α :=
  let tail := if orNull && message.isNone then " or null" else ""
  .error (.fault (name ++ ": ".toList ++ message.getD "parameter not set".toList ++ tail.toList))

def Expanding.output (mode : ExpandMode) (e : Expanding) (body : Option Command) :
    Except ExpansionStop Expanding :=
  if mode.discard then .ok e
  else
    let start := e.out.size
    let finish (e : Expanding) : Except ExpansionStop Expanding :=
      .ok (if mode.quoted then e else e.record start false)
    match body, e.outputs with
    | none, _ => finish e
    | some _, output :: outputs => finish ({ e with outputs }.value mode output)
    | some body, [] => .error (.needs body e.st)

/-- What is left of a value without the part that matches a pattern. -/
def Expanding.trim (e : Expanding) (start : Nat) (use : ParamUse) (pattern : List Char) : Expanding :=
  let text := e.textFrom start
  let cells := (e.out.extract start e.out.size).toList
  let kept := match use with
    | .trimStart longest => (trimmedStart pattern text longest).map fun n => cells.drop n
    | .trimEnd longest => (trimmedEnd pattern text longest).map fun n => cells.take n
    | _ => none
  let e' := e.truncate start
  { e' with out := e'.out ++ (kept.getD cells).toArray }

/-- Whether parts go on with all parameters and the end of a quotation. -/
def startsAllParams : Word → Bool
  | .param ['@'] .plain false [] :: .mark :: _ => true
  | _ => false

mutual

/-- Expands parts of a word. `inQuotes` tells that a quotation is open, `start` where plain characters
started, `skip` how many parts are passed over, `tilde` that a tilde may stand for a directory, and
`named` that the name of an assignment has been passed. -/
def expandParts (mode : ExpandMode) (inQuotes : Bool) (start skip : Nat) (tilde named : Bool)
    (parts : List Part) (e : Expanding) : Except ExpansionStop Expanding :=
  let flush (e : Expanding) : Expanding :=
    if mode.word && !mode.quoted && !inQuotes && !mode.discard && start < e.out.size then e.record start false
    else e
  match parts with
  | [] => .ok (flush e)
  | part :: rest =>
    match skip with
    | skip + 1 => expandParts mode inQuotes start skip false named rest e
    | 0 =>
      match if tilde then tildeAt e.st mode (part :: rest) else none with
      | some (home, n) =>
        let e := if mode.discard then e else e.value { mode with quoted := true } home
        expandParts mode inQuotes e.out.size (n - 1) false named rest e
      | none =>
        let quotedMode := { mode with quoted := mode.quoted || inQuotes, tilde := false }
        match part with
        | .char c =>
          let e := if mode.discard then e else { e with out := e.out.push (.char c) }
          let opens := mode.assignment && (c == ':' || (c == '=' && !named))
          expandParts mode inQuotes start 0 opens (named || c == '=') rest e
        | .literal c =>
          let e := flush e
          let cell := if mode.keepsQuotes then Cell.literal c else .char c
          let e := if mode.discard then e else { e with out := e.out.push cell }
          expandParts mode inQuotes e.out.size 0 false named rest e
        | .mark =>
          let e := flush e
          if !inQuotes && startsAllParams rest then
            match expandParam { mode with quoted := true, tilde := false } ['@'] .plain false [] e with
            | .error stop => .error stop
            | .ok e => expandParts mode inQuotes e.out.size 2 false named rest e
          else
            let e := if mode.discard || !mode.keepsQuotes then e else { e with out := e.out.push .mark }
            expandParts mode (!inQuotes) e.out.size 0 false named rest e
        | .param name use colon word =>
          match expandParam quotedMode name use colon word (flush e) with
          | .error stop => .error stop
          | .ok e => expandParts mode inQuotes e.out.size 0 false named rest e
        | .command body =>
          match (flush e).output quotedMode body with
          | .error stop => .error stop
          | .ok e => expandParts mode inQuotes e.out.size 0 false named rest e
        | .arith expression =>
          let e := flush e
          let place := e.out.size
          match expandParts { discard := mode.discard } false place 0 false false expression e with
          | .error stop => .error stop
          | .ok e =>
            if mode.discard then expandParts mode inQuotes e.out.size 0 false named rest e
            else
              match (e.truncate place).calculate (e.textFrom place) with
              | .error stop => .error stop
              | .ok (n, e) =>
                let e := e.value quotedMode (toString n).toList
                let e := if quotedMode.quoted then e else e.record place false
                expandParts mode inQuotes e.out.size 0 false named rest e
termination_by (sizeOf parts, 0)

def expandParam (mode : ExpandMode) (name : List Char) (use : ParamUse) (colon : Bool) (word : List Part)
    (e : Expanding) : Except ExpansionStop Expanding :=
  let start := e.out.size
  let record (e : Expanding) : Except ExpansionStop Expanding :=
    if mode.quoted then
      if name == ['@'] && !e.st.params.isEmpty then .ok (e.record start true) else .ok e
    else .ok (e.record start false)
  if use = .unknown && !mode.discard then .error (.fault "Bad substitution".toList)
  else
    let silent := use = .ifSet || use = .length || mode.discard
    let valueMode := if silent then { mode with full := false, pattern := false } else mode
    let value? := if use = .unknown then none else e.st.param? valueMode name
    let absent := value?.isNone || (colon && value? == some [])
    let e := if silent then e else e.value mode (value?.getD [])
    let wordMode (discard : Bool) : ExpandMode :=
      { mode with tilde := true, word := true, discard := mode.discard || discard }
    let textMode (discard : Bool) : ExpandMode := { tilde := true, discard := mode.discard || discard }
    match use with
    | .ifSet =>
      match expandParts (wordMode absent) false e.out.size 0 true false word e with
      | .error stop => .error stop
      | .ok e => if mode.discard || !absent then .ok e else record e
    | .unknown | .orDefault =>
      match expandParts (wordMode (!absent)) false e.out.size 0 true false word e with
      | .error stop => .error stop
      | .ok e => if mode.discard || absent then .ok e else record e
    | .orAssign | .orFail =>
      match expandParts (textMode (!absent)) false e.out.size 0 true false word e with
      | .error stop => .error stop
      | .ok e =>
        if mode.discard then .ok e
        else if !absent then record e
        else
          let text := e.textFrom start
          let e := e.truncate start
          if use = .orFail then missing name (if word.isEmpty then none else some text) colon
          else if !isName name then .error (.fault (name ++ ": bad variable name".toList))
          else if e.st.isFixed name then .error (.fault (name ++ ": is read only".toList))
          else record ({ e with st := e.st.set name text }.value mode text)
    | use =>
      if absent && !mode.discard && e.st.has .nounset then missing name none false
      else
        match use with
        | .length =>
          if mode.discard then .ok e
          else
            record (e.value mode (toString (value?.getD []).length).toList)
        | .trimStart _ | .trimEnd _ =>
          let idle := mode.discard || absent
          let patternMode : ExpandMode := { ExpandMode.pat with discard := idle }
          match expandParts patternMode false 0 0 true false word { e with out := #[], regions := [] } with
          | .error stop => .error stop
          | .ok p =>
            let e := { e with st := p.st, outputs := p.outputs }
            if idle then .ok e else record (e.trim start use (Cell.pattern p.out.toList))
        | _ => if mode.discard || absent then .ok e else record e
termination_by (sizeOf word, 1)

end

/-- Expands a word. The outputs of its commands are those that the shell has kept. -/
def expandWord (st : State) (mode : ExpandMode) (word : Word) :
    Except ExpansionStop (Array Cell × List Region × State) :=
  match expandParts { mode with tilde := false } false 0 0 mode.tilde false word ⟨st, #[], [], st.outputs⟩ with
  | .error stop => .error stop
  | .ok e => .ok (e.out, e.regions, { e.st with outputs := [] })

def expandCells (st : State) (word : Word) : Except ExpansionStop (List (List Cell) × State) :=
  match expandWord st .fields word with
  | .error stop => .error stop
  | .ok (out, regions, st) => .ok (cutFields out regions st.separators none, st)

def expandText (st : State) (mode : ExpandMode) (word : Word) :
    Except ExpansionStop (List Char × State) :=
  match expandWord st mode word with
  | .error stop => .error stop
  | .ok (out, _, st) => .ok (Cell.text out.toList, st)

def expandPattern (st : State) (word : Word) : Except ExpansionStop (List Char × State) :=
  match expandWord st .pat word with
  | .error stop => .error stop
  | .ok (out, _, st) => .ok (Cell.pattern out.toList, st)

end PartyBridge.Shell
