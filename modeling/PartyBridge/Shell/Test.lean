import PartyBridge.Shell.Arithmetic

/-!
# Conditions

The expressions of `test`: properties of files and texts, and comparisons of files, texts and integers.
How a text is read depends on what follows it: an operator that has no operand is an operand itself.
-/

namespace PartyBridge.Shell

structure FileFacts where
  property : Char → List Char → Bool
  newer : List Char → List Char → Bool
  same : List Char → List Char → Bool

inductive TestToken where
  | none
  | operand
  | unary (letter : Char)
  | binary (op : String)
  | not
  | and
  | or
  | «open»
  | close
deriving Repr, DecidableEq, Inhabited

def binaryTests : List String :=
  ["=", "!=", "<", ">", "-eq", "-ne", "-ge", "-gt", "-le", "-lt", "-nt", "-ot", "-ef"]

def testOperator? (text : List Char) : Option TestToken :=
  match text with
  | ['!'] => some .not
  | ['('] => some .open
  | [')'] => some .close
  | ['-', 'a'] => some .and
  | ['-', 'o'] => some .or
  | text =>
    if binaryTests.contains (String.ofList text) then some (.binary (String.ofList text))
    else
      match text with
      | ['-', c] => if "rwxefdcbpugkstznhOGLS".toList.contains c then some (.unary c) else none
      | _ => none

abbrev TestArgs := List (List Char)

namespace TestArgs

def isAlone (args : TestArgs) (place : Nat) : Bool :=
  match args[place + 1]? with
  | none => true
  | some next =>
    if place + 2 < args.length then
      match testOperator? next with
      | some (.binary _) => true
      | _ => false
    else false

def token (args : TestArgs) (place : Nat) : TestToken :=
  match args[place]? with
  | none => .none
  | some text =>
    match testOperator? text with
    | none => .operand
    | some (.unary c) => if args.isAlone place then .operand else .unary c
    | some .open => if place + 1 < args.length then .open else .operand
    | some t => t

end TestArgs

def testInteger (text : List Char) : Except (List Char) Int :=
  match decimal? text with
  | some n => .ok n
  | none => .error ("Illegal number: ".toList ++ text)

def testBinary (facts : FileFacts) (op : String) (a b : List Char) : Except (List Char) Bool :=
  let compare (f : Int → Int → Bool) : Except (List Char) Bool := do
    let x ← testInteger a
    let y ← testInteger b
    return f x y
  match op with
  | "=" => .ok (a == b)
  | "!=" => .ok (a != b)
  | "<" => .ok (decide (a < b))
  | ">" => .ok (decide (b < a))
  | "-eq" => compare (· == ·)
  | "-ne" => compare (· != ·)
  | "-lt" => compare fun x y => decide (x < y)
  | "-le" => compare fun x y => decide (x ≤ y)
  | "-gt" => compare fun x y => decide (y < x)
  | "-ge" => compare fun x y => decide (y ≤ x)
  | "-nt" => .ok (facts.newer a b)
  | "-ot" => .ok (facts.newer b a)
  | _ => .ok (facts.same a b)

mutual

/-- Alternatives from a place on, whose first argument is read as told. Gives the value and the place of
the last argument; `found` is the value of those before. -/
def testOr (facts : FileFacts) (args : TestArgs) : Nat → (found : Bool) → TestToken → Nat →
    Except (List Char) (Bool × Nat)
  | 0, found, _, place => .ok (found, place)
  | fuel + 1, found, t, place => do
    let (value, place) ← testAnd facts args fuel true t place
    if args.token (place + 1) = .or then
      testOr facts args fuel (found || value) (args.token (place + 2)) (place + 2)
    else return (found || value, place)

def testAnd (facts : FileFacts) (args : TestArgs) : Nat → (held : Bool) → TestToken → Nat →
    Except (List Char) (Bool × Nat)
  | 0, held, _, place => .ok (held, place)
  | fuel + 1, held, t, place => do
    let (value, place) ← testNot facts args fuel t place
    if args.token (place + 1) = .and then
      testAnd facts args fuel (held && value) (args.token (place + 2)) (place + 2)
    else return (held && value, place)

def testNot (facts : FileFacts) (args : TestArgs) : Nat → TestToken → Nat → Except (List Char) (Bool × Nat)
  | 0, _, place => .ok (false, place)
  | fuel + 1, t, place =>
    if t = .not then do
      let next := args.token (place + 1)
      let (value, place) ← testNot facts args fuel next (if next = .none then place else place + 1)
      return (!value, place)
    else testPrimary facts args fuel t place

/-- A condition in brackets, an operator with its operands, or a text that holds if it is not empty. -/
def testPrimary (facts : FileFacts) (args : TestArgs) : Nat → TestToken → Nat →
    Except (List Char) (Bool × Nat)
  | 0, _, place => .ok (false, place)
  | fuel + 1, t, place =>
    match t with
    | .none => .ok (false, place)
    | .open =>
      let inner := args.token (place + 1)
      if inner = .close then .ok (false, place + 1)
      else do
        let (value, place) ← testOr facts args fuel false inner (place + 1)
        if args.token (place + 1) = .close then return (value, place + 1)
        else .error "closing paren expected".toList
    | .unary c =>
      match args[place + 1]? with
      | none => .error ('-' :: c :: ": argument expected".toList)
      | some text =>
        match c with
        | 'z' => .ok (text.isEmpty, place + 1)
        | 'n' => .ok (!text.isEmpty, place + 1)
        | 't' => do
          let _ ← testInteger text
          return (false, place + 1)
        | c => .ok (facts.property c text, place + 1)
    | _ =>
      let text := args[place]?.getD []
      match args.token (place + 1) with
      | .binary op =>
        match args[place + 2]? with
        | none => .error (op.toList ++ ": argument expected".toList)
        | some other => (testBinary facts op text other).map fun value => (value, place + 2)
      | _ => .ok (!text.isEmpty, place)

end

/-- The value of a condition whose first argument is read as told. -/
def testFrom (facts : FileFacts) (args : TestArgs) (t : TestToken) : Except (List Char) Bool := do
  let (value, place) ← testOr facts args (4 * args.length + 8) false t 0
  match args[place]?, args[place + 1]? with
  | some text, some _ =>
    let op := if text.isEmpty then [] else text ++ [':', ' ']
    .error (op ++ "unexpected operator".toList)
  | _, _ => return value

/-- The value of a condition. Three and four arguments are read by rules of their own; `negated` is set
behind a negation. -/
def testValue (facts : FileFacts) (negated : Bool) (args : TestArgs) : Except (List Char) Bool :=
  let whole (args : TestArgs) (t : TestToken) : Except (List Char) Bool :=
    (testFrom facts args t).map fun value => value != negated
  let inner := (args.drop 1).dropLast
  let bracketed := args.head? == some ['('] && args.getLast? == some [')']
  match args with
  | [] => .ok negated
  | first :: rest =>
    match args with
    | [_, op, _] =>
      match testOperator? op with
      | some (.binary _) => whole args .operand
      | _ =>
        if bracketed then whole inner (TestArgs.token inner 0)
        else if first == ['!'] then testValue facts true rest
        else whole args (TestArgs.token args 0)
    | [_, _, _, _] =>
      if bracketed then whole inner (TestArgs.token inner 0)
      else if first == ['!'] then testValue facts true rest
      else whole args (TestArgs.token args 0)
    | _ => whole args (TestArgs.token args 0)
termination_by args.length

end PartyBridge.Shell
