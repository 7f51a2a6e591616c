/-!
# Finite doubles

A finite double is `significand * 2 ^ unit` times the least positive double, which is
`2 ^ (-1074)`. `round?` gives the double nearest a ratio, a tie going to the even significand;
products and quotients are rounded that way.
-/

namespace PartyBridge.Number

/-- A finite double: a sign and `significand * 2 ^ unit` times `2 ^ (-1074)`. -/
structure Binary64 where
  negative : Bool
  significand : Nat
  unit : Nat
deriving Repr, DecidableEq, Inhabited

/-- The integer nearest `num / den`, a tie going to the even one. -/
def nearest (num den : Nat) : Nat :=
  let low := num / den
  let rest := num % den
  if 2 * rest < den then low
  else if den < 2 * rest then low + 1
  else if low % 2 = 0 then low
  else low + 1

namespace Binary64

/-- The double nearest `num / den` times `2 ^ (-1074)`, or none when it is past the greatest. -/
def round? (negative : Bool) (num den : Nat) : Option Binary64 :=
  let unit := (num / den).log2 - 52
  let significand := nearest num (den * Nat.pow 2 unit)
  let x : Binary64 :=
    if significand = Nat.pow 2 53 then ⟨negative, Nat.pow 2 52, unit + 1⟩ else ⟨negative, significand, unit⟩
  if x.unit ≤ 2045 then some x else none

/-- The magnitude in multiples of the least positive double. -/
def scaled (x : Binary64) : Nat :=
  x.significand * Nat.pow 2 x.unit

def ofNat? (n : Nat) : Option Binary64 :=
  round? false (n * Nat.pow 2 1074) 1

def mul? (x y : Binary64) : Option Binary64 :=
  round? (x.negative != y.negative) (x.scaled * y.scaled) (Nat.pow 2 1074)

def div? (x y : Binary64) : Option Binary64 :=
  round? (x.negative != y.negative) (x.scaled * Nat.pow 2 1074) y.scaled

def isZero (x : Binary64) : Bool :=
  x.significand == 0

def zero (negative : Bool) : Binary64 :=
  ⟨negative, 0, 0⟩

def withSign (x : Binary64) (negative : Bool) : Binary64 :=
  { x with negative }

end Binary64

/-- The greatest power of ten that is a finite double has this exponent. -/
def greatestPower : Nat := 308

/-- `f` divided by `10 ^ 308` while the exponent is below `-308`, then by the power that is left.
Each step rounds; a zero ends the division early. -/
def divideByPower (f : Binary64) (exponent : Nat) : Option Binary64 :=
  if f.isZero then some f
  else if greatestPower < exponent then do
    let power ← Binary64.ofNat? (Nat.pow 10 greatestPower)
    let next ← f.div? power
    divideByPower next (exponent - greatestPower)
  else do
    let power ← Binary64.ofNat? (Nat.pow 10 exponent)
    f.div? power
termination_by exponent
decreasing_by
  simp only [greatestPower] at *
  omega

/-- The double that `significand * 10 ^ exponent` is read as: the significand is rounded, then
multiplied or divided by rounded powers of ten. None when the result is past the greatest double. -/
def scaleByTen (negative : Bool) (significand : Nat) (exponent : Int) : Option Binary64 := do
  let f ← Binary64.ofNat? significand
  match exponent with
  | .ofNat n =>
    if greatestPower < n then
      if f.isZero then some (f.withSign negative) else none
    else
      let power ← Binary64.ofNat? (Nat.pow 10 n)
      let product ← f.mul? power
      some (product.withSign negative)
  | .negSucc n =>
    let quotient ← divideByPower f (n + 1)
    some (quotient.withSign negative)

end PartyBridge.Number
