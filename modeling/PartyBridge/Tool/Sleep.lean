import PartyBridge.Number.Floating
import PartyBridge.Tool.Options

/-!
# Sleeping

A time is a number of seconds, or of another unit that a letter behind it names.
-/

namespace PartyBridge.Tool

/-- How long a process sleeps, in nanoseconds. -/
inductive Nap where
  | nanoseconds (n : Nat)
  | forever
deriving Repr, DecidableEq, Inhabited

def unitSeconds? (unit : List Char) : Option Nat :=
  match unit with
  | [] | ['s'] => some 1
  | ['m'] => some 60
  | ['h'] => some 3600
  | ['d'] => some 86400
  | _ => none

def nap? (text : List Char) : Option Nap :=
  match Number.readFloating text with
  | none => none
  | some scanned =>
    match unitSeconds? scanned.rest, scanned.value with
    | some seconds, .finite x =>
      if x.negative && !x.isZero then none
      else some (.nanoseconds ((x.scaled * seconds * 1000000000 + (Number.grain - 1)) / Number.grain))
    | some _, .infinite false => some .forever
    | _, _ => none

def Nap.add : Nap → Nap → Nap
  | .nanoseconds a, .nanoseconds b => .nanoseconds (a + b)
  | _, _ => .forever

/-- How long the arguments ask to sleep, or a complaint. -/
def napOf (args : List (List Char)) : Except (List Char) Nap :=
  let table : OptionTable := { letters := [], words := [], anywhere := true }
  match table.parse args with
  | .error e => .error (advice "sleep" e)
  | .ok g =>
    if g.operands.isEmpty then .error (advice "sleep" "missing operand".toList)
    else
      let bad := g.operands.filter fun a => (nap? a).isNone
      if bad.isEmpty then
        .ok (g.operands.foldl (fun nap a => nap.add ((nap? a).getD .forever)) (.nanoseconds 0))
      else
        let complaints := bad.map fun a => "invalid time interval ".toList ++ quoted a
        .error (advice "sleep" ("\nsleep: ".toList.intercalate complaints))

end PartyBridge.Tool
