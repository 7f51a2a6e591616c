import PartyBridge.Shell.Pattern
import PartyBridge.Tool.Options

/-!
# Replacing characters

Two strings list characters; those of the first are replaced by those of the second at the same place,
deleted, or squeezed where they repeat.
-/

namespace PartyBridge.Tool.Tr

/-! ### Lists of characters -/

inductive Item where
  | char (c : Char)
  | range (low high : Char)
  | named (name : List Char)
  | equivalent (c : Char)
  /-- A character so many times; none stands for as often as needed. -/
  | repeated (c : Char) (count : Option Nat)
deriving Repr, DecidableEq, Inhabited

/-- A character, and whether it was behind a backslash. -/
abbrev Marked := Char × Bool

/-- A list with its escapes replaced, and the warnings about it. -/
def unescape : Nat → List Char → List Marked × List (List Char)
  | 0, _ => ([], [])
  | _ + 1, [] => ([], [])
  | _ + 1, ['\x5c'] =>
    ([('\x5c', false)], ["warning: an unescaped backslash at end of string is not portable".toList])
  | fuel + 1, '\x5c' :: c :: rest =>
    let one (d : Char) (rest : List Char) (warnings : List (List Char)) : List Marked × List (List Char) :=
      let (more, later) := unescape fuel rest
      ((d, true) :: more, warnings ++ later)
    let value (digits : List Char) : Nat := digits.foldl (fun n c => n * 8 + (c.toNat - 48)) 0
    let digits := ((c :: rest).take 3).takeWhile fun d => '0' ≤ d && d ≤ '7'
    if !digits.isEmpty then
      if value digits < 256 then one (Char.ofNat (value digits)) ((c :: rest).drop digits.length) []
      else
        let kept := digits.take 2
        let warning := "warning: the ambiguous octal escape \\".toList ++ digits ++
          " is being\n\tinterpreted as the 2-byte sequence \\0".toList ++ kept ++ ", ".toList ++ digits.drop 2
        one (Char.ofNat (value kept)) ((c :: rest).drop 2) [warning]
    else
      match c with
      | 'a' => one (Char.ofNat 7) rest []
      | 'b' => one (Char.ofNat 8) rest []
      | 'f' => one (Char.ofNat 12) rest []
      | 'n' => one '\n' rest []
      | 'r' => one '\r' rest []
      | 't' => one '\t' rest []
      | 'v' => one (Char.ofNat 11) rest []
      | c => one c rest []
  | fuel + 1, c :: rest =>
    let (more, warnings) := unescape fuel rest
    ((c, false) :: more, warnings)

def upToClose (mark : Char) : List Marked → List Marked → Option (List Marked × List Marked)
  | _, [] | _, [_] => none
  | acc, a :: b :: rest =>
    if a == (mark, false) && b == (']', false) then some (acc.reverse, rest) else upToClose mark (a :: acc) (b :: rest)

/-- The count of a repetition behind its star, and what follows the closing bracket. -/
def repeatCount (text : List Marked) : Except (List Char) (Option (Option Nat × List Marked)) :=
  let digits := text.takeWhile fun (c, escaped) => c != ']' && !escaped
  match text.drop digits.length with
  | [] | (_, true) :: _ => .ok none
  | _ :: rest =>
    let digits := digits.map Prod.fst
    if digits.isEmpty then .ok (some (none, rest))
    else
      let octal := digits.head? == some '0'
      let isDigit (c : Char) : Bool := if octal then '0' ≤ c && c ≤ '7' else c.isDigit
      if digits.all isDigit then
        let n := digits.foldl (fun n c => n * (if octal then 8 else 10) + (c.toNat - 48)) 0
        .ok (some (if n = 0 then none else some n, rest))
      else
        .error ("invalid repeat count ".toList ++ quoted digits ++ " in [c*n] construct".toList)

def printable (c : Char) : List Char :=
  let n := c.toNat
  let octal (n : Nat) : Char := Char.ofNat (48 + n % 8)
  if 32 ≤ n && n < 127 then [c] else ['\x5c', octal (n / 64), octal (n / 8), octal n]

def isRepeat (text : List Marked) : Bool :=
  match text with
  | ('*', false) :: rest =>
    match rest.dropWhile fun (c, escaped) => !escaped && c.isDigit with
    | (']', false) :: _ => true
    | _ => false
  | _ => false

def items : Nat → List Marked → Except (List Char) (List Item)
  | 0, _ => .ok []
  | _ + 1, [] => .ok []
  | fuel + 1, first :: rest =>
    let put (item : Item) (rest : List Marked) : Except (List Char) (List Item) :=
      match items fuel rest with
      | .error e => .error e
      | .ok more => .ok (item :: more)
    let plain (c : Char) (rest : List Marked) : Except (List Char) (List Item) :=
      match rest with
      | ('-', false) :: (d, _) :: more =>
        if d < c then
          .error ("range-endpoints of '".toList ++ printable c ++ '-' :: printable d ++
            "' are in reverse collating sequence order".toList)
        else put (.range c d) more
      | rest => put (.char c) rest
    let repetition : Except (List Char) (List Item) :=
      match rest with
      | (c, _) :: ('*', false) :: more =>
        match repeatCount more with
        | .error e => .error e
        | .ok (some (count, more)) => put (.repeated c count) more
        | .ok none => plain '[' rest
      | _ => plain '[' rest
    match first, rest with
    | ('[', false), (mark, false) :: more =>
      if (mark == ':' || mark == '=') && 2 ≤ more.length then
        match upToClose mark [] more with
        | none => repetition
        | some (name, behind) =>
          let name := name.map Prod.fst
          if name.isEmpty then
            let what := if mark == ':' then "missing character class name " else "missing equivalence class character "
            .error (what.toList ++ quoted ['[', mark, mark, ']'])
          else if mark == ':' then
            if (Shell.charClasses.lookup (String.ofList name)).isSome then put (.named name) behind
            else if isRepeat more then repetition
            else .error ("invalid character class ".toList ++ quoted name)
          else
            match name with
            | [c] => put (.equivalent c) behind
            | name =>
              if isRepeat more then repetition
              else .error (name ++ ": equivalence class operand must be a single character".toList)
      else repetition
    | ('[', false), _ => repetition
    | (c, _), rest => plain c rest

def charsBetween (low high : Char) : List Char :=
  (List.range (high.toNat + 1 - low.toNat)).map fun i => Char.ofNat (low.toNat + i)

def allChars : List Char :=
  charsBetween (Char.ofNat 0) (Char.ofNat 255)

def Item.chars : Item → List Char
  | .char c | .equivalent c => [c]
  | .range low high => charsBetween low high
  | .named name =>
    match Shell.charClasses.lookup (String.ofList name) with
    | some test => allChars.filter test
    | none => []
  | .repeated c count => List.replicate (count.getD 0) c

def Item.isCase : Item → Bool
  | .named name => name == "upper".toList || name == "lower".toList
  | _ => false

def Item.isNamed : Item → Bool
  | .named _ => true
  | _ => false

def Item.isOpen : Item → Bool
  | .repeated _ none => true
  | _ => false

/-! ### What is done -/

structure Work where
  /-- Characters that are left out. -/
  deletes : List Char
  /-- What becomes of a character. -/
  table : Array Char
  /-- Characters of which only the first of several is kept. -/
  squeezes : List Char
deriving Repr, Inhabited

structure Manner where
  complement : Bool
  delete : Bool
  squeeze : Bool
  truncate : Bool
deriving Repr, DecidableEq, Inhabited

/-- Both lists part by part, where classes of letters have to face each other: the pairs of characters
that replace one another. Letters of two cases face each other one by one. -/
def aligned : Nat → List (Char × Option Item) → List (Char × Option Item) → Option (List (Char × Char))
  | 0, _, _ => some []
  | _ + 1, [], (_, some _) :: _ => none
  | _ + 1, [], _ => some []
  | _ + 1, _, [] => some []
  | fuel + 1, (a, s) :: first, (b, t) :: second =>
    match t with
    | some item =>
      match s with
      | some from' =>
        if item.isCase && from'.isCase then
          let low := from'.chars
          let high := item.chars
          (aligned fuel (first.drop (low.length - 1)) (second.drop (high.length - 1))).map fun more =>
            low.zip high ++ more
        else none
      | none => none
    | none => (aligned fuel first second).map fun more => (a, b) :: more

/-- The characters of parts; the first one of a class of letters tells so. -/
def tagged (items : List Item) : List (Char × Option Item) :=
  items.flatMap fun item =>
    match item.chars with
    | [] => []
    | c :: rest => (c, if item.isCase then some item else none) :: rest.map fun c => (c, none)

/-- The characters of the first list, or all others. -/
def chosen (m : Manner) (first : List Item) : List Char :=
  let chars := first.flatMap Item.chars
  if m.complement then allChars.filter fun c => !chars.contains c else chars

/-- The second list, with the part that is repeated as often as needed. -/
def filled (length : Nat) (second : List Item) : List Item :=
  let known := second.foldl (fun n item => n + item.chars.length) 0
  second.map fun item =>
    match item with
    | .repeated c none => .repeated c (some (length - known))
    | item => item

def tableOf (pairs : List (Char × Char)) : Array Char :=
  pairs.foldl (fun t (a, b) => t.setIfInBounds a.toNat b) allChars.toArray

def Work.plan (m : Manner) (first : List Item) (second? : Option (List Item)) : Except String Work :=
  let same := tableOf []
  let set := chosen m first
  if first.any Item.isOpen then .error "the [c*] repeat construct may not appear in string1"
  else
    match second? with
    | none => .ok (if m.delete then ⟨set, same, []⟩ else ⟨[], same, set⟩)
    | some second =>
      let translates := !m.delete
      let length := set.length
      if 1 < (second.filter Item.isOpen).length then
        .error "only one [c*] repeat construct may appear in string2"
      else if !translates then
        if second.any Item.isOpen then .error "the [c*] construct may appear in string2 only when translating"
        else .ok ⟨set, same, second.flatMap Item.chars⟩
      else if second.any fun item => match item with | .equivalent _ => true | _ => false then
        .error "[=c=] expressions may not appear in string2 when translating"
      else if second.any fun item => item.isNamed && !item.isCase then
        .error ("when translating, the only character classes that may appear in\n" ++
          "string2 are 'upper' and 'lower'")
      else
        let second := filled length second
        let chars := second.flatMap Item.chars
        if chars.length < length && !m.truncate && chars.isEmpty then
          .error "when not truncating set1, string2 must be non-empty"
        else if chars.length < length && !m.truncate && second.getLast?.any Item.isNamed &&
            (m.complement || first.all fun item => !item.isCase) then
          if m.complement then
            .error ("when translating with string1 longer than string2,\n" ++
              "the latter string must not end with a character class")
          else .error "misaligned [:upper:] and/or [:lower:] construct"
        else
          let missing := if m.truncate then 0 else length - chars.length
          let padded := second ++ (chars.getLast?.elim [] fun c => [Item.repeated c (some missing)])
          let wanted := padded.flatMap Item.chars
          if m.complement && first.any Item.isNamed &&
              !(wanted.length == length && wanted.eraseDups.length == 1) then
            .error ("when translating with complemented character classes,\n" ++
              "string2 must map all characters in the domain to one")
          else
            let pairs? := if m.complement then some (set.zip wanted)
              else aligned (length + 1) (tagged first) (tagged padded)
            match pairs? with
            | none => .error "misaligned [:upper:] and/or [:lower:] construct"
            | some pairs => .ok ⟨[], tableOf pairs, if m.squeeze then wanted else []⟩

/-- The characters that are written for some; the last one written is kept. Both are newest first. -/
def Work.apply (w : Work) : Option Char → List Char → List Char → List Char × Option Char
  | last, acc, [] => (acc.reverse, last)
  | last, acc, c :: rest =>
    if w.deletes.contains c then apply w last acc rest
    else
      let d := (w.table[c.toNat]?).getD c
      if last == some d && w.squeezes.contains d then apply w last acc rest
      else apply w (some d) (d :: acc) rest

/-! ### The command line -/

def options : OptionTable :=
  { letters := [('A', .none), ('c', .none), ('C', .none), ('d', .none), ('s', .none), ('t', .none)]
    words :=
      [("complement", .none, 'c'), ("delete", .none, 'd'), ("squeeze-repeats", .none, 's'),
        ("truncate-set1", .none, 't')]
    anywhere := false }

def ofArguments (args : List (List Char)) : Except (List Char) (Work × List Char) :=
  match options.parse args with
  | .error e => .error (advice "tr" e)
  | .ok g =>
    let m : Manner := ⟨g.has 'c' || g.has 'C', g.has 'd', g.has 's', g.has 't'⟩
    let least := if m.delete == m.squeeze then 2 else 1
    let most := if m.delete && !m.squeeze then 1 else 2
    let count := g.operands.length
    if count < least then
      match g.operands with
      | [] => .error (advice "tr" "missing operand".toList)
      | arg :: _ =>
        let why := if m.squeeze then "Two strings must be given when both deleting and squeezing repeats."
          else "Two strings must be given when translating."
        .error (advice "tr" ("missing operand after ".toList ++ quoted arg ++ '\n' :: why.toList))
    else if most < count then
      let extra := (g.operands[most]?).getD []
      let why := if count = 2 then "\nOnly one string may be given when deleting without squeezing repeats." else ""
      .error (advice "tr" ("extra operand ".toList ++ quoted extra ++ why.toList))
    else
      let read (text : List Char) : List Char × Except (List Char) (List Item) :=
        let (marked, warnings) := unescape (text.length + 1) text
        (warnings.flatMap fun w => "tr: ".toList ++ w ++ ['\n'], items (marked.length + 1) marked)
      let fault (warnings text : List Char) : List Char := warnings ++ "tr: ".toList ++ text ++ ['\n']
      let (warnings, first) := read ((g.operands[0]?).getD [])
      match first with
      | .error e => .error (fault warnings e)
      | .ok first =>
        match (g.operands[1]?).map read with
        | some (more, .error e) => .error (fault (warnings ++ more) e)
        | some (more, .ok second) =>
          match Work.plan m first (some second) with
          | .error e => .error (fault (warnings ++ more) e.toList)
          | .ok w => .ok (w, warnings ++ more)
        | none =>
          match Work.plan m first none with
          | .error e => .error (fault warnings e.toList)
          | .ok w => .ok (w, warnings)

end PartyBridge.Tool.Tr
