import PartyBridge.Number.Binary64
import PartyBridge.Text.Integer

/-!
# The shortest decimal of a double

`shortest` finds the fewest decimal digits that read back as a double, and of those the nearest.
`Style.render` writes them positionally or with an exponent, as a style says.
-/

namespace PartyBridge.Number

structure Decimal where
  digits : Nat
  exponent : Int
deriving Repr, DecidableEq

/-- The least `j ≥ tried` with `den ≤ num * 10 ^ j`, looked for in `fuel` steps. -/
def leadingZeros (num den : Nat) : Nat → Nat → Nat
  | 0, tried => tried
  | fuel + 1, tried =>
    if den ≤ num * Nat.pow 10 tried then tried else leadingZeros num den fuel (tried + 1)

/-- The exponent of the power of ten at or below `num / den`, where `0 < num`. -/
def decimalExponent (num den : Nat) : Int :=
  if den ≤ num then Int.ofNat ((Text.natDigits (num / den)).length - 1)
  else -Int.ofNat (leadingZeros num den 400 1)

/-- The reals that round to a double, in quarters of its unit: its own place and both ends. -/
structure Interval where
  low : Nat
  middle : Nat
  high : Nat
  closed : Bool
deriving Repr, DecidableEq

/-- The interval of a double. Below a power of two the gap is half as wide. -/
def Binary64.interval (x : Binary64) : Interval :=
  let middle := 4 * x.significand
  let low := if x.significand = Nat.pow 2 52 ∧ 0 < x.unit then middle - 1 else middle - 2
  ⟨low, middle, middle + 2, x.significand % 2 == 0⟩

/-- A multiple of `10 ^ exponent` that reads back as `x`: of the two beside `x` the nearer one, and
the even one at a tie. -/
def Binary64.onGrid? (x : Binary64) (exponent : Int) : Option Decimal :=
  let range := x.interval
  let up := match exponent with
    | .ofNat _ => 1
    | .negSucc n => Nat.pow 10 (n + 1)
  let down := match exponent with
    | .ofNat n => Nat.pow 10 n
    | .negSucc _ => 1
  let unit := Nat.pow 2 x.unit * up
  let step := Nat.pow 2 1076 * down
  let place := range.middle * unit
  let inside (d : Nat) : Bool :=
    if range.closed then range.low * unit ≤ d * step && d * step ≤ range.high * unit
    else range.low * unit < d * step && d * step < range.high * unit
  let below := place / step
  let above := below + 1
  let fromBelow := place - below * step
  let fromAbove := above * step - place
  let belowNearer := fromBelow < fromAbove || (fromBelow == fromAbove && below % 2 == 0)
  match inside below, inside above with
  | true, true => some ⟨if belowNearer then below else above, exponent⟩
  | true, false => some ⟨below, exponent⟩
  | false, true => some ⟨above, exponent⟩
  | false, false => none

/-- The first grid of `n` digits or more that has a point for `x`. -/
def Binary64.firstGrid (x : Binary64) (top : Int) : Nat → Nat → Decimal
  | 0, _ => ⟨0, 0⟩
  | fuel + 1, n =>
    match x.onGrid? (top - Int.ofNat n + 1) with
    | some d => d
    | none => firstGrid x top fuel (n + 1)

/-- Moves the zeros at the end of the digits to the exponent. -/
def Decimal.strip : Nat → Decimal → Decimal
  | 0, d => d
  | fuel + 1, d =>
    if d.digits % 10 = 0 ∧ d.digits ≠ 0 then strip fuel ⟨d.digits / 10, d.exponent + 1⟩ else d

/-- The shortest decimal that reads back as a double other than zero, the nearest of those. Its
digits end in no zero. -/
def Binary64.shortest (x : Binary64) : Decimal :=
  (x.firstGrid (decimalExponent x.scaled (Nat.pow 2 1074)) 18 1).strip 20

/-- How numbers are written: whether a number whose point stands behind so many digits is written
positionally. -/
structure Style where
  positional : Int → Bool

def zeros (n : Nat) : List Char :=
  List.replicate n '0'

def positionalText (digits : List Char) (point : Int) : List Char :=
  if point ≤ 0 then '0' :: '.' :: zeros (-point).toNat ++ digits
  else if digits.length ≤ point.toNat then
    digits ++ zeros (point.toNat - digits.length) ++ ['.', '0']
  else digits.take point.toNat ++ '.' :: digits.drop point.toNat

/-- The digits with a point behind the first and an exponent with its sign. -/
def scientificText (digits : List Char) (point : Int) : List Char :=
  let mantissa := match digits with
    | [] | [_] => digits
    | d :: rest => d :: '.' :: rest
  let sign := if 0 ≤ point - 1 then '+' else '-'
  mantissa ++ 'e' :: sign :: Text.natDigits (point - 1).natAbs

def Style.render (style : Style) (x : Binary64) : String :=
  let body :=
    if x.isZero then ['0', '.', '0']
    else
      let d := x.shortest
      let digits := Text.natDigits d.digits
      let point := Int.ofNat digits.length + d.exponent
      if style.positional point then positionalText digits point else scientificText digits point
  String.ofList (if x.negative then '-' :: body else body)

end PartyBridge.Number
