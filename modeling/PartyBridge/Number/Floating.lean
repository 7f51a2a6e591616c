import PartyBridge.Number.Binary64
import PartyBridge.Text.Integer

/-!
# Floating numbers in text

`readFloating` reads the number at the start of a text, correctly rounded. `fixed`, `scientific`,
`general` and `hexadecimal` write the digits of a double with a precision; the digits of its exact value
are rounded to nearest, ties to even.
-/

namespace PartyBridge.Number

inductive Floating where
  | finite (x : Binary64)
  | infinite (negative : Bool)
  | nan (negative : Bool)
deriving Repr, DecidableEq, Inhabited

/-! ### Reading -/

/-- A number that was read: its value, what follows it, and whether it is too large or too small to be
written down as a double. -/
structure Scanned where
  value : Floating
  rest : List Char
  outOfRange : Bool
deriving Repr, Inhabited

def isLeadingSpace (c : Char) : Bool :=
  c == ' ' || (9 ≤ c.toNat && c.toNat ≤ 13)

/-- The double nearest `num / den`, and whether it is out of range. -/
def ofRatio (negative : Bool) (num den : Nat) : Floating × Bool :=
  match Binary64.round? negative (num * Nat.pow 2 1074) den with
  | none => (.infinite negative, true)
  | some x =>
    let tiny := x.significand < Nat.pow 2 52 && num * Nat.pow 2 1074 % den != 0
    (.finite x, tiny)

/-- `mantissa * base ^ exponent` as a double. Exponents far out of range are not computed. -/
def ofScaled (negative : Bool) (mantissa base : Nat) (exponent : Int) (limit : Nat) : Floating × Bool :=
  if mantissa = 0 then (.finite (.zero negative), false)
  else
    let size := (Text.natDigits mantissa).length
    match exponent with
    | .ofNat n =>
      if limit < n then (.infinite negative, true) else ofRatio negative (mantissa * Nat.pow base n) 1
    | .negSucc n =>
      if limit + 5 * size < n then (.finite (.zero negative), true)
      else ofRatio negative mantissa (Nat.pow base (n + 1))

/-- The digits at the start of a text in a base, with a point among them: their number, how many stand
behind the point, whether there are any, and what follows. -/
def digitsWithPoint (value? : Char → Option Nat) (base : Nat) (text : List Char) :
    Nat × Nat × Bool × List Char :=
  let isDigit (c : Char) : Bool := (value? c).isSome
  let add (n : Nat) (c : Char) : Nat := n * base + (value? c).getD 0
  let whole := text.takeWhile isDigit
  let rest := text.drop whole.length
  match rest with
  | '.' :: more =>
    let part := more.takeWhile isDigit
    if whole.isEmpty && part.isEmpty then (0, 0, false, text)
    else ((whole ++ part).foldl add 0, part.length, true, more.drop part.length)
  | rest => (whole.foldl add 0, 0, !whole.isEmpty, rest)

def readExponent (letter : Char) (text : List Char) : Int × List Char :=
  match text with
  | c :: rest =>
    if c.toLower != letter then (0, text)
    else
      let (negative, digits) := match rest with
        | '-' :: more => (true, more)
        | '+' :: more => (false, more)
        | more => (false, more)
      let taken := digits.takeWhile Char.isDigit
      if taken.isEmpty then (0, text)
      else
        let digits' := taken.dropWhile (· == '0')
        let n : Nat := if 9 < digits'.length then 999999999
          else digits'.foldl (fun n c => n * 10 + (c.toNat - 48)) 0
        (if negative then -(n : Int) else n, digits.drop taken.length)
  | [] => (0, [])

def hexDigit? (c : Char) : Option Nat :=
  if c.isDigit then some (c.toNat - 48)
  else if 'a' ≤ c && c ≤ 'f' then some (c.toNat - 87)
  else if 'A' ≤ c && c ≤ 'F' then some (c.toNat - 55)
  else none

def startsWith (word : String) (text : List Char) : Bool :=
  (text.take word.length).map Char.toLower == word.toList

def readFloating (text : List Char) : Option Scanned :=
  let text := text.dropWhile isLeadingSpace
  let (negative, text) := match text with
    | '-' :: rest => (true, rest)
    | '+' :: rest => (false, rest)
    | rest => (false, rest)
  let decimal : Option Scanned :=
    match digitsWithPoint Text.digit? 10 text with
    | (_, _, false, _) => none
    | (n, places, true, rest) =>
      let (e, rest) := readExponent 'e' rest
      let (value, outOfRange) := ofScaled negative n 10 (e - places) 400
      some ⟨value, rest, outOfRange⟩
  if startsWith "infinity" text then some ⟨.infinite negative, text.drop 8, false⟩
  else if startsWith "inf" text then some ⟨.infinite negative, text.drop 3, false⟩
  else if startsWith "nan" text then
    let rest := text.drop 3
    match rest with
    | '(' :: more =>
      let name := more.takeWhile fun c => c.isAlphanum || c == '_'
      match more.drop name.length with
      | ')' :: rest => some ⟨.nan negative, rest, false⟩
      | _ => some ⟨.nan negative, rest, false⟩
    | rest => some ⟨.nan negative, rest, false⟩
  else if startsWith "0x" text then
    match digitsWithPoint hexDigit? 16 (text.drop 2) with
    | (_, _, false, _) => decimal
    | (n, places, true, rest) =>
      let (e, rest) := readExponent 'p' rest
      let (value, outOfRange) := ofScaled negative n 2 (e - 4 * places) 1200
      some ⟨value, rest, outOfRange⟩
  else decimal

/-! ### Writing -/

def paddedDigits (n least : Nat) : List Char :=
  let digits := Text.natDigits n
  List.replicate (least - digits.length) '0' ++ digits

/-- Digits with a point before the last `places` of them; without places the point is left out unless
it is asked for. -/
def withPoint (digits : List Char) (places : Nat) (point : Bool) : List Char :=
  let whole := digits.take (digits.length - places)
  let part := digits.drop (digits.length - places)
  whole ++ (if places = 0 && !point then [] else ['.']) ++ part

/-- The least positive double is one divided by this number. -/
def grain : Nat := Nat.pow 2 1074

def Binary64.fixed (x : Binary64) (places : Nat) (point : Bool) : List Char :=
  withPoint (paddedDigits (nearest (x.scaled * Nat.pow 10 places) grain) (places + 1)) places point

/-- The exponent of the power of ten at or below the magnitude. -/
def Binary64.exponent (x : Binary64) : Int :=
  if grain ≤ x.scaled then ((Text.natDigits (x.scaled / grain)).length : Int) - 1
  else (Text.natDigits (x.scaled * Nat.pow 10 400 / grain)).length - 401

def Binary64.rounded (x : Binary64) (digits : Nat) : Nat × Int :=
  if x.isZero then (0, 0)
  else
    let e := x.exponent
    let n := match (digits : Int) - 1 - e with
      | .ofNat up => nearest (x.scaled * Nat.pow 10 up) grain
      | .negSucc down => nearest x.scaled (grain * Nat.pow 10 (down + 1))
    if n = Nat.pow 10 digits then (Nat.pow 10 (digits - 1), e + 1) else (n, e)

/-- An exponent with its sign and two digits or more. -/
def exponentText (letter : Char) (e : Int) : List Char :=
  letter :: (if e < 0 then '-' else '+') :: paddedDigits e.natAbs 2

def Binary64.scientific (x : Binary64) (places : Nat) (upper point : Bool) : List Char :=
  let (n, e) := x.rounded (places + 1)
  withPoint (paddedDigits n (places + 1)) places point ++ exponentText (if upper then 'E' else 'e') e

def stripZeros (text : List Char) : List Char :=
  if text.contains '.' then
    let stripped := (text.reverse.dropWhile (· == '0')).dropWhile (· == '.')
    stripped.reverse
  else text

/-- The magnitude with some digits in all: positionally if the exponent is small, without zeros at the
end unless the point is asked for. -/
def Binary64.general (x : Binary64) (digits : Nat) (upper point : Bool) : List Char :=
  let digits := max digits 1
  let (n, e) := x.rounded digits
  let strip (text : List Char) : List Char := if point then text else stripZeros text
  if -4 ≤ e && e < digits then strip (x.fixed ((digits : Int) - 1 - e).toNat point)
  else
    strip (withPoint (paddedDigits n digits) (digits - 1) point) ++ exponentText (if upper then 'E' else 'e') e

def hexDigits (upper : Bool) : Nat → Nat → List Char → List Char
  | 0, _, acc => acc
  | left + 1, n, acc =>
    let d := n % 16
    let c := Char.ofNat (if d < 10 then 48 + d else if upper then 55 + d else 87 + d)
    hexDigits upper left (n / 16) (c :: acc)

def Binary64.hexadecimal (x : Binary64) (places : Option Nat) (upper point : Bool) : List Char :=
  let e : Int := if x.isZero then 0 else (x.unit : Int) - 1022
  let full := x.significand
  let rounded : Nat × Nat :=
    match places with
    | some p => if p < 13 then (nearest full (Nat.pow 16 (13 - p)), p) else (full * Nat.pow 16 (p - 13), p)
    | none => (full, 13)
  let (n, p) := rounded
  let lead := n / Nat.pow 16 p
  let part := hexDigits upper p (n % Nat.pow 16 p) []
  let part := if places.isNone then (part.reverse.dropWhile (· == '0')).reverse else part
  let dot := if part.isEmpty && !point then [] else ['.']
  let sign := if e < 0 then '-' else '+'
  ['0', if upper then 'X' else 'x'] ++ Text.natDigits lead ++ dot ++ part ++
    [if upper then 'P' else 'p', sign] ++ Text.natDigits e.natAbs

end PartyBridge.Number
