import PartyBridge.Shell.Builtin.Arguments

/-!
# Builtins for variables, options and parameters

A fault ends the builtin; what it did before stays done.
-/

namespace PartyBridge.Shell

/-- Runs an action for each argument until there is a fault. -/
def State.forEach (st : State) (f : State → List Char → Except (List Char) State) :
    List (List Char) → State
  | [] => st
  | arg :: rest =>
    match f st arg with
    | .ok st => st.forEach f rest
    | .error text => st.dies text

namespace State

/-- Gives a variable a value or takes it away, if its name is one and it may change. -/
def assign (st : State) (name : List Char) (value : Option (List Char)) : Except (List Char) State :=
  if !isName name then .error (name ++ ": bad variable name".toList)
  else if st.isFixed name then .error (name ++ ": is read only".toList)
  else .ok (value.elim (st.unset name) (st.set name))

/-! ### Showing variables -/

/-- The variables that are chosen, in the order of their names, one in a line. -/
def showVariables (st : State) (front : List Char) (chosen : Variable → Bool) : List Char :=
  let sorted := (st.bindings.filter chosen).mergeSort fun a b => !(decide (b.name < a.name))
  sorted.flatMap fun v =>
    front ++ v.name ++ (v.value.elim [] fun value => '=' :: singleQuoted value) ++ ['\n']

/-! ### Marking variables -/

def mark (st : State) (fixing : Bool) (name : List Char) : State :=
  if fixing then st.fix name else st.export name

def markAll (st : State) (fixing : Bool) (args : List (List Char)) : State :=
  match plainOptions "p" args with
  | .error text => st.dies text
  | .ok g =>
    let word := if fixing then "readonly " else "export "
    if g.has 'p' || g.operands.isEmpty then
      st.say (st.showVariables word.toList fun v => if fixing then v.fixed else v.exported)
    else
      st.forEach
        (fun st arg =>
          let (name, value) := cutAssignment arg
          if value.isNone && (st.find? name).isSome then .ok (st.mark fixing name)
          else (st.assign name value).map fun st => st.mark fixing name)
        g.operands

/-- Makes a variable local; without a value it keeps the one it has. -/
def makeLocal (st : State) (arg : List Char) (exported : Bool) : Except (List Char) State :=
  if arg == ['-'] then
    match st.locals with
    | frame :: rest => .ok { st with locals := (.flags st.flags :: frame) :: rest }
    | [] => .ok st
  else
    let (name, value) := cutAssignment arg
    let remembered := st.remember name
    let marked (st : State) : State := if exported then st.export name else st
    match value with
    | some value =>
      if st.isFixed name then .error (name ++ ": is read only".toList)
      else .ok (marked (remembered.set name value))
    | none =>
      if (st.find? name).isSome then .ok (marked remembered)
      else if !isName name then .error (name ++ ": bad variable name".toList)
      else .ok (remembered.put ⟨name, none, exported, false⟩)

def localAll (st : State) (args : List (List Char)) : State :=
  if st.locals.isEmpty then st.dies "not in a function".toList
  else st.forEach (fun st arg => st.makeLocal arg false) args

def unsetAll (st : State) (args : List (List Char)) : State :=
  match plainOptions "vf" args with
  | .error text => st.dies text
  | .ok g =>
    if g.options.getLast?.any fun (c, _) => c == 'f' then
      { st with functions := st.functions.filter fun (name, _) => !g.operands.contains name }
    else st.forEach (fun st name => st.assign name none) g.operands

/-! ### Options and parameters -/

/-- Turns an option on or off. Two of them exclude each other. -/
def setFlag (st : State) (flag : Flag) (on : Bool) : State :=
  let other : Option Flag := match flag with
    | .vi => some .emacs
    | .emacs => some .vi
    | _ => none
  let flags := st.flags.filter fun f => f != flag && !(on && some f == other)
  { st with flags := if on then flag :: flags else flags }

def showFlags (st : State) (readable : Bool) : List Char :=
  let line : Flag × String × Option Char → List Char := fun (flag, name, _) =>
    let padded := name.toList ++ List.replicate (16 - name.length) ' '
    if readable then padded ++ (if st.has flag then "on" else "off").toList ++ ['\n']
    else "set ".toList ++ (if st.has flag then "-o " else "+o ").toList ++ name.toList ++ ['\n']
  (if readable then "Current option settings\n".toList else []) ++ Flag.all.flatMap line

structure Setting where
  st : State
  shown : List Char
  rest : List (List Char)
  fault : Option (List Char)
deriving Inhabited

/-- Options of one argument. A letter of its own names an option in the next argument. -/
def readFlagLetters (on : Bool) : List Char → Setting → Setting
  | [], s => s
  | 'o' :: letters, s =>
    match s.rest with
    | [] => readFlagLetters on letters { s with shown := s.shown ++ s.st.showFlags on }
    | name :: rest =>
      match Flag.ofName? name with
      | some flag => readFlagLetters on letters { s with st := s.st.setFlag flag on, rest }
      | none => { s with fault := some ("Illegal option -o ".toList ++ name) }
  | c :: letters, s =>
    match Flag.ofLetter? c with
    | some flag => readFlagLetters on letters { s with st := s.st.setFlag flag on }
    | none => { s with fault := some ("Illegal option -".toList ++ [c]) }

def readFlags : Nat → Setting → Setting
  | 0, s => s
  | fuel + 1, s =>
    if s.fault.isSome then s
    else
      match s.rest with
      | ['-'] :: rest => { s with st := (s.st.setFlag .xtrace false).setFlag .verbose false, rest }
      | ['-', '-'] :: rest =>
        { s with st := if rest.isEmpty then { s.st with params := [] } else s.st, rest }
      | ('-' :: letters) :: rest => readFlags fuel (readFlagLetters true letters { s with rest })
      | ('+' :: letters) :: rest => readFlags fuel (readFlagLetters false letters { s with rest })
      | _ => s

/-- Puts the place of `getopts` back to the first parameter. -/
def resetOptions (st : State) : State :=
  { st with optionIndex := 1, optionOffset := none }

/-- `set`. Job control needs a terminal. -/
def setAll (st : State) (args : List (List Char)) : State :=
  if args.isEmpty then st.say (st.showVariables [] fun v => v.value.isSome)
  else
    let s := readFlags (args.length + 1) ⟨st, [], args, none⟩
    match s.fault with
    | some text => s.st.dies text
    | none =>
      let st := if s.rest.isEmpty then s.st else { s.st with params := s.rest }.resetOptions
      let st := st.say s.shown
      if st.has .monitor then
        (st.setFlag .monitor false).complain "can't access tty; job control turned off".toList
      else st

def shift (st : State) (args : List (List Char)) : State :=
  match args.head?.elim (.ok 1) numberOf with
  | .error text => st.dies text
  | .ok n =>
    if st.params.length < n then st.dies "can't shift that many".toList
    else { st with params := st.params.drop n }.resetOptions

/-! ### Options of scripts -/

/-- Whether an option letter is known, and whether it takes an argument. -/
def knownOption (c : Char) : List Char → Option Bool
  | [] => none
  | d :: rest =>
    if d == c then some (rest.head? == some ':')
    else
      match rest with
      | ':' :: rest => knownOption c rest
      | rest => knownOption c rest

/-- What `getopts` has found: the value of its variable, its argument, which is taken away if there is
none, a complaint, the number of words that have been passed, the place in the last of them, and whether
there are no more options. -/
structure OptionFound where
  letter : Char
  argument : Option (Option (List Char))
  complaint : List Char
  passed : Nat
  offset : Option Nat
  done : Bool
deriving Repr, Inhabited

def nextOption (letters : List Char) (words : List (List Char)) (index : Nat) (offset : Option Nat) :
    OptionFound :=
  let quiet := letters.head? == some ':'
  let current : List Char :=
    match offset with
    | some n => if 1 < index then ((words[index - 2]?).getD []).drop n else []
    | none => []
  let started : Option (List Char × Nat) × Nat :=
    if !current.isEmpty then (some (current, index - 1), index - 1)
    else
      match words[index - 1]? with
      | some ['-', '-'] => (none, index)
      | some ('-' :: c :: rest) => (some (c :: rest, index), index)
      | _ => (none, index - 1)
  match started with
  | (some (c :: rest, passed), _) =>
    let place (rest : List Char) (passed : Nat) : Option Nat :=
      some (((words[passed - 1]?).getD []).length - rest.length)
    match knownOption c letters with
    | none =>
      if quiet then ⟨'?', some (some [c]), [], passed, place rest passed, false⟩
      else ⟨'?', some none, "Illegal option -".toList ++ [c, '\n'], passed, place rest passed, false⟩
    | some false => ⟨c, some (some []), [], passed, place rest passed, false⟩
    | some true =>
      if !rest.isEmpty then ⟨c, some (some rest), [], passed, none, false⟩
      else
        match words[passed]? with
        | some value => ⟨c, some (some value), [], passed + 1, none, false⟩
        | none =>
          if quiet then ⟨':', some (some [c]), [], passed, none, false⟩
          else ⟨'?', some none, "No arg for -".toList ++ c :: " option\n".toList, passed, none, false⟩
  | (_, passed) => ⟨'?', none, [], passed, none, true⟩

/-- `getopts`. -/
def getOption (st : State) (args : List (List Char)) : State :=
  match plainOptions "" args with
  | .error text => st.dies text
  | .ok g =>
    match g.operands with
    | letters :: name :: given =>
      let words := if given.isEmpty then st.params else given
      let st := if words.length + 1 < st.optionIndex then st.resetOptions else st
      let found := nextOption letters words st.optionIndex st.optionOffset
      let withArgument : Except (List Char) State :=
        match found.argument with
        | none => .ok st
        | some value => st.assign "OPTARG".toList value
      let assigned := do
        let st ← withArgument
        let st ← st.assign "OPTIND".toList (some (toString (found.passed + 1)).toList)
        st.assign name (some [found.letter])
      match assigned with
      | .error text => st.resetOptions.dies text
      | .ok st =>
        let st := { st with optionIndex := found.passed + 1, optionOffset := found.offset }
        (st.withStatus (if found.done then 1 else 0)).report found.complaint
    | _ => st.dies "Usage: getopts optstring var [arg...]".toList

end State

end PartyBridge.Shell
