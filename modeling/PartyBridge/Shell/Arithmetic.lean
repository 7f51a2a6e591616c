import PartyBridge.Shell.Syntax
import PartyBridge.Text.Integer

/-!
# Arithmetic of the shell

Expressions over integers of 64 bits with operators, signs and brackets. Names stand for variables, and an
assignment changes them. What a condition leaves out is read but has no effect.
-/

namespace PartyBridge.Shell

inductive ArithFault where
  | illegalNumber (text : List Char)
  | divisionByZero
  | expecting (what : String)
  /-- A variable that keeps its value. -/
  | fixed (name : List Char)
  /-- A quotient that is too large, which the processor refuses. -/
  | overflow
deriving Repr, DecidableEq

def wrap (n : Int) : Int :=
  Int.bmod n (Text.greatestUInt64 + 1)

/-! ### Numbers -/

/-- The value of a digit in bases up to 36. -/
def digitIn? (base : Nat) (c : Char) : Option Nat :=
  let n :=
    if c.isDigit then c.toNat - 48
    else if 'a' ≤ c ∧ c ≤ 'z' then c.toNat - 87
    else if 'A' ≤ c ∧ c ≤ 'Z' then c.toNat - 55
    else 99
  if n < base then some n else none

def leadingDigits (base : Nat) (text : List Char) : Nat × List Char :=
  let digits := text.takeWhile fun c => (digitIn? base c).isSome
  (digits.foldl (fun n c => n * base + (digitIn? base c).getD 0) 0, text.drop digits.length)

/-- The number at the start of a text that starts with a digit, and what follows it: decimal, octal
behind `0`, hexadecimal behind `0x`. -/
def leadingConstant (text : List Char) : Nat × List Char :=
  match text with
  | '0' :: 'x' :: d :: rest | '0' :: 'X' :: d :: rest =>
    if (digitIn? 16 d).isSome then leadingDigits 16 (d :: rest) else (0, text.drop 1)
  | '0' :: rest => leadingDigits 8 rest
  | text => leadingDigits 10 text

def isSpace (c : Char) : Bool :=
  c == ' ' || (9 ≤ c.toNat && c.toNat ≤ 13)

def leadingSign : List Char → Bool × List Char
  | '-' :: rest => (true, rest)
  | '+' :: rest => (false, rest)
  | text => (false, text)

/-- A text as a number with a sign; blanks may stand around it. `read` reads the digits. None if there
is anything else, or if the number does not fit into 64 bits. -/
def integerWith? (read : List Char → Nat × List Char) (text : List Char) : Option Int :=
  let (negative, digits) := leadingSign (text.dropWhile isSpace)
  if !digits.head?.any Char.isDigit then none
  else
    let (n, rest) := read digits
    let value : Int := if negative then -(n : Int) else n
    if rest.all isSpace && Text.leastInt64 ≤ value && value ≤ Text.greatestInt64 then some value else none

/-- The value of a variable's text; nothing but blanks counts as zero. -/
def integer? (text : List Char) : Option Int :=
  if text.all isSpace then some 0 else integerWith? leadingConstant text

def decimal? (text : List Char) : Option Int :=
  integerWith? (leadingDigits 10) text

/-! ### Operators -/

inductive Operator where
  | mul
  | div
  | rem
  | add
  | sub
  | shiftLeft
  | shiftRight
  | less
  | lessEqual
  | greater
  | greaterEqual
  | equal
  | notEqual
  | bitAnd
  | bitXor
  | bitOr
deriving Repr, DecidableEq, Inhabited

namespace Operator

/-- Which operators come first: those of a lower rank. -/
def rank : Operator → Nat
  | .mul | .div | .rem => 0
  | .add | .sub => 1
  | .shiftLeft | .shiftRight => 2
  | .less | .lessEqual | .greater | .greaterEqual => 3
  | .equal | .notEqual => 4
  | .bitAnd => 5
  | .bitXor => 6
  | .bitOr => 7

def lastRank : Nat := 8

def apply (op : Operator) (a b : Int) : Except ArithFault Int :=
  let truth (p : Bool) : Int := if p then 1 else 0
  let bits (f : UInt64 → UInt64 → UInt64) : Int :=
    (f (Int64.ofInt a).toUInt64 (Int64.ofInt b).toUInt64).toInt64.toInt
  let divided (n : Int) : Except ArithFault Int :=
    if b = 0 then .error .divisionByZero
    else if a = Text.leastInt64 ∧ b = -1 then .error .overflow
    else .ok n
  match op with
  | .mul => .ok (wrap (a * b))
  | .div => divided (Int.tdiv a b)
  | .rem => divided (Int.tmod a b)
  | .add => .ok (wrap (a + b))
  | .sub => .ok (wrap (a - b))
  | .shiftLeft => .ok (wrap (a * Nat.pow 2 (b % 64).toNat))
  | .shiftRight => .ok (Int.fdiv a (Nat.pow 2 (b % 64).toNat))
  | .less => .ok (truth (a < b))
  | .lessEqual => .ok (truth (a ≤ b))
  | .greater => .ok (truth (b < a))
  | .greaterEqual => .ok (truth (b ≤ a))
  | .equal => .ok (truth (a == b))
  | .notEqual => .ok (truth (a != b))
  | .bitAnd => .ok (bits (· &&& ·))
  | .bitXor => .ok (bits (· ^^^ ·))
  | .bitOr => .ok (bits (· ||| ·))

end Operator

/-! ### Tokens -/

inductive ArithToken where
  | finish
  | unknown
  | number (n : Int)
  | name (name : List Char)
  | operator (op : Operator)
  /-- An assignment, which may combine the old value with the new one. -/
  | assign (op : Option Operator)
  | and
  | or
  | not
  | complement
  | leftParen
  | rightParen
  | question
  | colon
deriving Repr, DecidableEq, Inhabited

def arithToken : List Char → ArithToken × List Char
  | [] => (.finish, [])
  | c :: rest =>
    let combined (op : Operator) (rest : List Char) : ArithToken × List Char :=
      match rest with
      | '=' :: rest => (.assign (some op), rest)
      | rest => (.operator op, rest)
    match c, rest with
    | ' ', _ | '\t', _ | '\n', _ => arithToken rest
    | '=', '=' :: rest => (.operator .equal, rest)
    | '=', _ => (.assign none, rest)
    | '>', '=' :: rest => (.operator .greaterEqual, rest)
    | '>', '>' :: rest => combined .shiftRight rest
    | '>', _ => (.operator .greater, rest)
    | '<', '=' :: rest => (.operator .lessEqual, rest)
    | '<', '<' :: rest => combined .shiftLeft rest
    | '<', _ => (.operator .less, rest)
    | '|', '|' :: rest => (.or, rest)
    | '|', _ => combined .bitOr rest
    | '&', '&' :: rest => (.and, rest)
    | '&', _ => combined .bitAnd rest
    | '!', '=' :: rest => (.operator .notEqual, rest)
    | '!', _ => (.not, rest)
    | '(', _ => (.leftParen, rest)
    | ')', _ => (.rightParen, rest)
    | '*', _ => combined .mul rest
    | '/', _ => combined .div rest
    | '%', _ => combined .rem rest
    | '+', _ => combined .add rest
    | '-', _ => combined .sub rest
    | '~', _ => (.complement, rest)
    | '^', _ => combined .bitXor rest
    | '?', _ => (.question, rest)
    | ':', _ => (.colon, rest)
    | c, rest =>
      if c.isDigit then
        let (n, rest) := leadingConstant (c :: rest)
        (.number (min n Text.greatestInt64), rest)
      else if isNameStart c then
        let name := leadingName (c :: rest)
        (.name name, (c :: rest).drop name.length)
      else (.unknown, c :: rest)

/-! ### Values -/

structure ArithScope where
  lookup : List Char → Option (List Char)
  fixed : List Char → Bool

structure Arith where
  text : List Char
  assigned : List (List Char × Int)
deriving Repr, DecidableEq

namespace Arith

def peek (a : Arith) : ArithToken :=
  (arithToken a.text).1

def advance (a : Arith) : Arith :=
  { a with text := (arithToken a.text).2 }

def value (scope : ArithScope) (a : Arith) (name : List Char) : Except ArithFault Int :=
  match a.assigned.lookup name with
  | some n => .ok n
  | none =>
    let text := (scope.lookup name).getD []
    match integer? text with
    | some n => .ok n
    | none => .error (.illegalNumber text)

def assign (scope : ArithScope) (a : Arith) (name : List Char) (n : Int) : Except ArithFault (Int × Arith) :=
  if scope.fixed name then .error (.fixed name)
  else .ok (n, { a with assigned := (name, n) :: a.assigned })

end Arith

mutual

/-- An operand, with its signs. If `idle`, nothing has an effect. -/
def arithPrimary (scope : ArithScope) : Nat → (idle : Bool) → Arith → Except ArithFault (Int × Arith)
  | 0, _, _ => .error (.expecting "primary")
  | fuel + 1, idle, a =>
    match a.peek with
    | .leftParen => do
      let (n, a) ← arithAssignment scope fuel idle a.advance
      if a.peek = .rightParen then return (n, a.advance) else .error (.expecting "')'")
    | .number n => .ok (n, a.advance)
    | .name name => if idle then .ok (0, a.advance) else do return (← a.value scope name, a.advance)
    | .operator .add => arithPrimary scope fuel idle a.advance
    | .operator .sub => do
      let (n, a) ← arithPrimary scope fuel idle a.advance
      return (wrap (-n), a)
    | .not => do
      let (n, a) ← arithPrimary scope fuel idle a.advance
      return (if n = 0 then 1 else 0, a)
    | .complement => do
      let (n, a) ← arithPrimary scope fuel idle a.advance
      return (-n - 1, a)
    | _ => .error (.expecting "primary")

/-- Operators of a rank below `rank` behind their first operand; the first of them has been read. -/
def arithBinary (scope : ArithScope) : Nat → (idle : Bool) → (rank : Nat) → Int → Operator → Arith →
    Except ArithFault (Int × Arith)
  | 0, _, _, _, _, _ => .error (.expecting "primary")
  | fuel + 1, idle, rank, left, op, a => do
    let (right, a) ← arithPrimary scope fuel idle a
    let (right, a) ← match a.peek with
      | .operator next =>
        if next.rank < op.rank then arithBinary scope fuel idle op.rank right next a.advance
        else pure (right, a)
      | _ => pure (right, a)
    let result ← if idle then pure right else op.apply left right
    match a.peek with
    | .operator next =>
      if next.rank < rank then arithBinary scope fuel idle rank result next a.advance else return (result, a)
    | _ => return (result, a)

def arithAnd (scope : ArithScope) : Nat → (idle : Bool) → Arith → Except ArithFault (Int × Arith)
  | 0, _, _ => .error (.expecting "primary")
  | fuel + 1, idle, a => do
    let (left, a) ← arithPrimary scope fuel idle a
    let (left, a) ← match a.peek with
      | .operator op => arithBinary scope fuel idle Operator.lastRank left op a.advance
      | _ => pure (left, a)
    if a.peek = .and then
      let (right, a) ← arithAnd scope fuel (idle || left == 0) a.advance
      return (if left != 0 && right != 0 then 1 else 0, a)
    else return (left, a)

def arithOr (scope : ArithScope) : Nat → (idle : Bool) → Arith → Except ArithFault (Int × Arith)
  | 0, _, _ => .error (.expecting "primary")
  | fuel + 1, idle, a => do
    let (left, a) ← arithAnd scope fuel idle a
    if a.peek = .or then
      let (right, a) ← arithOr scope fuel (idle || left != 0) a.advance
      return (if left != 0 || right != 0 then 1 else 0, a)
    else return (left, a)

def arithChoice (scope : ArithScope) : Nat → (idle : Bool) → Arith → Except ArithFault (Int × Arith)
  | 0, _, _ => .error (.expecting "primary")
  | fuel + 1, idle, a => do
    let (condition, a) ← arithOr scope fuel idle a
    if a.peek = .question then
      let (yes, a) ← arithAssignment scope fuel (idle || condition == 0) a.advance
      if a.peek != .colon then .error (.expecting "':'")
      else
        let (no, a) ← arithChoice scope fuel (idle || condition != 0) a.advance
        return (if condition != 0 then yes else no, a)
    else return (condition, a)

/-- An assignment, or an expression without one. -/
def arithAssignment (scope : ArithScope) : Nat → (idle : Bool) → Arith → Except ArithFault (Int × Arith)
  | 0, _, _ => .error (.expecting "primary")
  | fuel + 1, idle, a =>
    match a.peek, a.advance.peek with
    | .name name, .assign op => do
      let (n, a) ← arithAssignment scope fuel idle a.advance.advance
      if idle then return (n, a)
      else
        let n ← match op with
          | none => pure n
          | some op => op.apply (← a.value scope name) n
        a.assign scope name n
    | _, _ => arithChoice scope fuel idle a

end

/-- The value of an expression and the variables that it assigned, newest first. -/
def evaluate (scope : ArithScope) (text : List Char) : Except ArithFault (Int × List (List Char × Int)) := do
  let (n, a) ← arithAssignment scope (8 * text.length + 16) false ⟨text, []⟩
  if a.peek = .finish then return (n, a.assigned) else .error (.expecting "EOF")

end PartyBridge.Shell
