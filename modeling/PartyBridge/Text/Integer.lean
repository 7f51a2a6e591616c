/-!
# Decimal integers

`decimal` writes an integer without leading zeros. `readSigned` and `readUnsigned` read one inside a
range and say why a text is refused; a plus sign and leading zeros are allowed. `durationText` writes a
duration in the largest of the units s, ms, µs and ns that it reaches, with as many decimal places as it
needs.
-/

namespace PartyBridge.Text

def digitChar (n : Nat) : Char :=
  Char.ofNat (48 + n % 10)

/-- The decimal digits of a number, without leading zeros. -/
def natDigits (n : Nat) : List Char :=
  if n < 10 then [digitChar n] else natDigits (n / 10) ++ [digitChar n]

def decimalNat (n : Nat) : String :=
  String.ofList (natDigits n)

/-- An integer in decimal, a minus sign in front of a negative one. -/
def decimal : Int → String
  | .ofNat n => decimalNat n
  | .negSucc n => "-" ++ decimalNat (n + 1)

def digit? (c : Char) : Option Nat :=
  if '0' ≤ c ∧ c ≤ '9' then some (c.toNat - 48) else none

def leastInt64 : Int := -9223372036854775808

def greatestInt64 : Int := 9223372036854775807

def greatestUInt64 : Nat := 18446744073709551615

inductive IntegerFault where
  | empty
  | invalidDigit
  | tooLarge
  | tooSmall
deriving Repr, DecidableEq

def IntegerFault.message : IntegerFault → String
  | .empty => "cannot parse integer from empty string"
  | .invalidDigit => "invalid digit found in string"
  | .tooLarge => "number too large to fit in target type"
  | .tooSmall => "number too small to fit in target type"

/-- Reads digits behind `n`, and stops at the first one that is no digit or leads past `limit`. -/
def readMagnitude (limit : Nat) (beyond : IntegerFault) : Nat → List Char → Except IntegerFault Nat
  | n, [] => .ok n
  | n, c :: rest =>
    match digit? c with
    | none => .error .invalidDigit
    | some d =>
      if limit < n * 10 + d then .error beyond else readMagnitude limit beyond (n * 10 + d) rest

/-- Reads an integer between `low` and `high`, where `low ≤ 0 ≤ high`, with an optional sign. -/
def readSigned (low high : Int) : List Char → Except IntegerFault Int
  | [] => .error .empty
  | ['+'] | ['-'] => .error .invalidDigit
  | '+' :: rest => (readMagnitude high.toNat .tooLarge 0 rest).map Int.ofNat
  | '-' :: rest => (readMagnitude (-low).toNat .tooSmall 0 rest).map fun n => -Int.ofNat n
  | text => (readMagnitude high.toNat .tooLarge 0 text).map Int.ofNat

/-- Reads a natural number up to `high`, with an optional plus sign. -/
def readUnsigned (high : Nat) : List Char → Except IntegerFault Nat
  | [] => .error .empty
  | ['+'] | ['-'] => .error .invalidDigit
  | '+' :: rest => readMagnitude high .tooLarge 0 rest
  | text => readMagnitude high .tooLarge 0 text

def readInt64? (text : List Char) : Option Int64 :=
  match readSigned leastInt64 greatestInt64 text with
  | .ok n => some (Int64.ofInt n)
  | .error _ => none

/-! ### Durations -/

/-- The decimal places of `part / 10 ^ places`, without zeros at the end. -/
def fraction (places part : Nat) : List Char :=
  let digits := natDigits part
  let padded := List.replicate (places - digits.length) '0' ++ digits
  (padded.reverse.dropWhile (· == '0')).reverse

/-- `nanos / 10 ^ places` with its decimal places, then a unit. -/
def inUnit (nanos places : Nat) (unit : String) : String :=
  let places' := fraction places (nanos % Nat.pow 10 places)
  let point := if places'.isEmpty then [] else '.' :: places'
  String.ofList (natDigits (nanos / Nat.pow 10 places) ++ point) ++ unit

def durationText (nanos : Nat) : String :=
  if 1000000000 ≤ nanos then inUnit nanos 9 "s"
  else if 1000000 ≤ nanos then inUnit nanos 6 "ms"
  else if 1000 ≤ nanos then inUnit nanos 3 "µs"
  else inUnit nanos 0 "ns"

end PartyBridge.Text
