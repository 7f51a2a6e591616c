import PartyBridge.Shell.Pattern
import PartyBridge.Tool.Regex

/-!
# The text of regular expressions

Basic expressions write groups, alternatives and counts with backslashes, extended ones without.
-/

namespace PartyBridge.Tool

inductive RegexFault where
  | nothingToRepeat
  | badCount
  | openCount
  | tooBig
  | openGroup
  | closedGroup
  | badReference
  | openBracket
  | badRange
  | badClass
  | badCollation
  | trailingBackslash
  | invalid
deriving Repr, DecidableEq, Inhabited

def RegexFault.message : RegexFault → String
  | .nothingToRepeat => "Invalid preceding regular expression"
  | .badCount => "Invalid content of \\\x7b\\\x7d"
  | .openCount => "Unmatched \\\x7b"
  | .tooBig => "Regular expression too big"
  | .openGroup => "Unmatched ( or \\("
  | .closedGroup => "Unmatched ) or \\)"
  | .badReference => "Invalid back reference"
  | .openBracket => "Unmatched [, [^, [:, [., or [="
  | .badRange => "Invalid range end"
  | .badClass => "Invalid character class name"
  | .badCollation => "Invalid collation character"
  | .trailingBackslash => "Trailing backslash"
  | .invalid => "Invalid regular expression"

structure RegexStyle where
  extended : Bool
  ignoreCase : Bool
  /-- Lines inside the text count, and only a newline itself matches a newline. -/
  multiline : Bool
deriving Repr, DecidableEq, Inhabited

/-! ### Sets in brackets -/

def rangesOf (test : Char → Bool) : List (Char × Char) :=
  ((List.range 256).map Char.ofNat).filter test |>.map fun c => (c, c)

def classRanges? (ignoreCase : Bool) (name : List Char) : Option (List (Char × Char)) :=
  let name := String.ofList name
  let name := if ignoreCase && (name == "upper" || name == "lower") then "alpha" else name
  (Shell.charClasses.find? fun (n, _) => n == name).map fun (_, test) => rangesOf test

inductive SetElement where
  | char (c : Char)
  | ranges (ranges : List (Char × Char))
  | symbol (name : List Char)
deriving Repr, DecidableEq, Inhabited

def maxSymbol : Nat := 32

def symbolName (mark : Char) : Nat → List Char → List Char → Option (List Char × List Char)
  | 0, _, _ => none
  | _ + 1, _, [] | _ + 1, _, [_] => none
  | fuel + 1, acc, c :: d :: rest =>
    if c == mark && d == ']' then some (acc.reverse, rest) else symbolName mark fuel (c :: acc) (d :: rest)

/-- Whether a minus comes first that stands for a range. Three of them are one plain minus. -/
def startsRange : List Char → Bool
  | '-' :: '-' :: '-' :: _ => false
  | '-' :: _ => true
  | _ => false

def setElement (style : RegexStyle) (allowMinus : Bool) (text : List Char) :
    Except RegexFault (SetElement × List Char) :=
  match text with
  | [] => .error .openBracket
  | '[' :: ':' :: rest =>
    match symbolName ':' maxSymbol [] rest with
    | none => .error .openBracket
    | some (name, rest) =>
      match classRanges? style.ignoreCase name with
      | some ranges => .ok (.ranges ranges, rest)
      | none => .error .badClass
  | '[' :: '=' :: rest =>
    match symbolName '=' maxSymbol [] rest with
    | some ([c], rest) => .ok (.ranges [(c, c)], rest)
    | some _ => .error .badCollation
    | none => .error .openBracket
  | '[' :: '.' :: rest =>
    match symbolName '.' maxSymbol [] rest with
    | some (name, rest) => .ok (.symbol name, rest)
    | none => .error .openBracket
  | '-' :: '-' :: '-' :: rest => .ok (.char '-', rest)
  | '-' :: rest => if allowMinus || rest.head? == some ']' then .ok (.char '-', rest) else .error .badRange
  | c :: rest => .ok (.char c, rest)

def SetElement.char? : SetElement → Except RegexFault Char
  | .char c => .ok c
  | .symbol [c] => .ok c
  | .symbol _ => .error .badCollation
  | .ranges _ => .error .badRange

/-- The elements of a set up to its closing bracket, and what follows it. -/
def setElements (style : RegexStyle) :
    Nat → (first : Bool) → List (Char × Char) → List Char → Except RegexFault (List (Char × Char) × List Char)
  | 0, _, _, _ => .error .openBracket
  | fuel + 1, first, ranges, text =>
    match setElement style first text with
    | .error e => .error e
    | .ok (element, rest) =>
      let finish (more : List (Char × Char)) (rest : List Char) :
          Except RegexFault (List (Char × Char) × List Char) :=
        match rest with
        | [] => .error .openBracket
        | ']' :: rest => .ok (ranges ++ more, rest)
        | rest => setElements style fuel false (ranges ++ more) rest
      let plain : Except RegexFault (List (Char × Char) × List Char) :=
        match element with
        | .ranges more => finish more rest
        | element =>
          match element.char? with
          | .ok c => finish [(c, c)] rest
          | .error e => .error e
      match element with
      | .ranges _ => plain
      | element =>
        if startsRange rest then
          match rest.drop 1 with
          | [] => .error .openBracket
          | ']' :: _ => plain
          | behind =>
            match setElement style true behind with
            | .error e => .error e
            | .ok (last, rest) =>
              match element.char?, last.char? with
              | .ok low, .ok high => if low ≤ high then finish [(low, high)] rest else .error .badRange
              | .error e, _ | _, .error e => .error e
        else plain

/-- The set behind an opening bracket, and what follows it. A newline is left out of an inverted set
where lines count. -/
def readSet (style : RegexStyle) (text : List Char) : Except RegexFault (CharSet × List Char) :=
  let (inverted, body) := match text with
    | '^' :: body => (true, body)
    | body => (false, body)
  let start := if inverted && style.multiline then [('\n', '\n')] else []
  if body.isEmpty then .error .invalid
  else
    match setElements style (body.length + 1) true start body with
    | .error e => .error e
    | .ok (ranges, rest) =>
      let set : CharSet := ⟨false, ranges⟩
      .ok ({ (if style.ignoreCase then set.foldCase else set) with inverted }, rest)

/-! ### Tokens -/

inductive RegexToken where
  | done
  | char (c : Char)
  | either
  | opens
  | closes
  | opensCount
  | closesCount
  | star
  | plus
  | question
  | bracket
  | dot
  | anchor (a : Anchor)
  | letters (set : CharSet)
  | same (index : Nat)
  | backslash
deriving Repr, DecidableEq, Inhabited

def wordSet : CharSet :=
  ⟨false, [('a', 'z'), ('A', 'Z'), ('0', '9'), ('_', '_')]⟩

def spaceSet : CharSet :=
  ⟨false, [(' ', ' '), ('\t', '\x0d')]⟩

/-- What a character means behind a backslash. -/
def escapedToken (extended : Bool) (c : Char) : RegexToken :=
  let basic (token : RegexToken) : RegexToken := if extended then .char c else token
  match c with
  | '|' => basic .either
  | '(' => basic .opens
  | ')' => basic .closes
  | '+' => basic .plus
  | '?' => basic .question
  | '\x7b' => basic .opensCount
  | '\x7d' => basic .closesCount
  | '<' => .anchor .wordStart
  | '>' => .anchor .wordEnd
  | 'b' => .anchor .wordEdge
  | 'B' => .anchor .notWordEdge
  | '\x60' => .anchor .textStart
  | '\x27' => .anchor .textEnd
  | 'w' => .letters wordSet
  | 'W' => .letters { wordSet with inverted := true }
  | 's' => .letters spaceSet
  | 'S' => .letters { spaceSet with inverted := true }
  | c => if '1' ≤ c && c ≤ '9' then .same (c.toNat - 48) else .char c

/-- The token at the start of a text, and what follows it; `anchors` tells that a caret is at a place
where it stands for the start of a line. -/
def regexToken (extended anchors : Bool) (text : List Char) : RegexToken × List Char :=
  let special (c : Char) (token : RegexToken) : RegexToken := if extended then token else .char c
  match text with
  | [] => (.done, [])
  | ['\x5c'] => (.backslash, [])
  | '\x5c' :: c :: rest => (escapedToken extended c, rest)
  | c :: rest =>
    let token : RegexToken :=
      match c with
      | '|' => special c .either
      | '+' => special c .plus
      | '?' => special c .question
      | '\x7b' => special c .opensCount
      | '\x7d' => special c .closesCount
      | '(' => special c .opens
      | ')' => special c .closes
      | '*' => .star
      | '[' => .bracket
      | '.' => .dot
      | '^' => if extended || anchors then .anchor .lineStart else .char c
      | '$' =>
        let ends := match rest with
          | [] => true
          | '\x5c' :: ')' :: _ | '\x5c' :: '|' :: _ => true
          | _ => false
        if extended || ends then .anchor .lineEnd else .char c
      | c => .char c
    (token, rest)

/-! ### Expressions -/

/-- An expression that is being read: the token at hand, what follows it, how many groups have been
opened, and those that are complete. -/
structure RegexInput where
  token : RegexToken
  rest : List Char
  groups : Nat
  complete : List Nat
deriving Repr, Inhabited

def RegexInput.next (extended : Bool) (anchors : Bool) (inp : RegexInput) : RegexInput :=
  let (token, rest) := regexToken extended anchors inp.rest
  { inp with token, rest }

def maxRepeat : Nat := 32767

/-- The number in front of a comma or the end of a count: none if there are no digits. -/
inductive CountNumber where
  | absent
  | wrong
  | number (n : Nat)
deriving Repr, DecidableEq, Inhabited

/-- Reads a number of a count; the token at hand is the comma or the end. -/
def readCountNumber (extended : Bool) : Nat → CountNumber → RegexInput → CountNumber × RegexInput
  | 0, _, inp => (.wrong, inp)
  | fuel + 1, n, inp =>
    let inp := inp.next extended false
    match inp.token with
    | .done => (.wrong, inp)
    | .closesCount | .char ',' => (n, inp)
    | .char c =>
      let n := match n with
        | .wrong => .wrong
        | .absent => if c.isDigit then .number (c.toNat - 48) else .wrong
        | .number n => if c.isDigit then .number (min (maxRepeat + 1) (n * 10 + (c.toNat - 48))) else .wrong
      readCountNumber extended fuel n inp
    | _ => readCountNumber extended fuel .wrong inp

/-- Reads the count behind its opening brace: the least and the most repetitions. -/
def readCount (extended : Bool) (inp : RegexInput) : Except RegexFault (Nat × Option Nat × RegexInput) :=
  let fuel := inp.rest.length + 1
  let (low, inp) := readCountNumber extended fuel .absent inp
  let comma := inp.token == .char ','
  let bad (inp : RegexInput) : Except RegexFault (Nat × Option Nat × RegexInput) :=
    .error (if inp.token == .done then .openCount else .badCount)
  let finish (least : Nat) : Except RegexFault (Nat × Option Nat × RegexInput) :=
    if inp.token == .closesCount then
      if maxRepeat < least then .error .tooBig else .ok (least, some least, inp)
    else if comma then
      match readCountNumber extended fuel .absent inp with
      | (.wrong, inp) => bad inp
      | (high, inp) =>
        let most := match high with
          | .number n => some n
          | _ => none
        if inp.token != .closesCount || most.any (· < least) then .error .badCount
        else if maxRepeat < most.getD least then .error .tooBig
        else .ok (least, most, inp)
    else bad inp
  match low with
  | .wrong => bad inp
  | .absent => if comma then finish 0 else .error .badCount
  | .number least => finish least

def readRepeats (extended : Bool) : Nat → Option Regex → RegexInput → Except RegexFault (Option Regex × RegexInput)
  | 0, _, _ => .error .tooBig
  | fuel + 1, r, inp =>
    let repeated (least : Nat) (most : Option Nat) (inp : RegexInput) :
        Except RegexFault (Option Regex × RegexInput) :=
      let inp := inp.next extended false
      let r := if most == some 0 then none else r.map fun r => r.repeated least most
      if !extended && (inp.token == .star || inp.token == .opensCount) then .error .nothingToRepeat
      else readRepeats extended fuel r inp
    match inp.token with
    | .star => repeated 0 none inp
    | .plus => repeated 1 none inp
    | .question => repeated 0 (some 1) inp
    | .opensCount =>
      match readCount extended inp with
      | .error e => .error e
      | .ok (least, most, inp) => repeated least most inp
    | _ => .ok (r, inp)

def join (a b : Option Regex) : Option Regex :=
  match a, b with
  | some a, some b => some (.seq a b)
  | some a, none => some a
  | none, b => b

mutual

def readEither (style : RegexStyle) (nested : Bool) :
    Nat → RegexInput → Except RegexFault (Option Regex × RegexInput)
  | 0, _ => .error .tooBig
  | fuel + 1, inp =>
    match readBranch style nested fuel none inp with
    | .error e => .error e
    | .ok (r, after) => readMore style nested fuel inp.complete r after

/-- Reads the alternatives behind the first one. A group of one alternative is not known in another. -/
def readMore (style : RegexStyle) (nested : Bool) : Nat → List Nat → Option Regex → RegexInput →
    Except RegexFault (Option Regex × RegexInput)
  | 0, _, _, _ => .error .tooBig
  | fuel + 1, known, r, inp =>
    if inp.token != .either then .ok (r, inp)
    else
      let inp := inp.next style.extended true
      let empty := inp.token == .either || inp.token == .done || (nested && inp.token == .closes)
      let branch : Except RegexFault (Option Regex × RegexInput) :=
        if empty then .ok (none, inp)
        else
          match readBranch style nested fuel none { inp with complete := known } with
          | .error e => .error e
          | .ok (b, after) => .ok (b, { after with complete := inp.complete ++ after.complete })
      match branch with
      | .error e => .error e
      | .ok (b, inp) => readMore style nested fuel known (some (.either (r.getD .empty) (b.getD .empty))) inp

def readBranch (style : RegexStyle) (nested : Bool) :
    Nat → Option Regex → RegexInput → Except RegexFault (Option Regex × RegexInput)
  | 0, _, _ => .error .tooBig
  | fuel + 1, r, inp =>
    if inp.token == .either || inp.token == .done || (nested && inp.token == .closes) then .ok (r, inp)
    else
      match readExpression style fuel inp with
      | .error e => .error e
      | .ok (next, inp) => readBranch style nested fuel (join r next) inp

/-- Reads one expression and how often it is repeated. A condition on a place is not repeated. -/
def readExpression (style : RegexStyle) :
    Nat → RegexInput → Except RegexFault (Option Regex × RegexInput)
  | 0, _ => .error .tooBig
  | fuel + 1, inp =>
    let one (set : CharSet) (inp : RegexInput) : Except RegexFault (Option Regex × RegexInput) :=
      let set := if style.ignoreCase then set.foldCase else set
      readRepeats style.extended (inp.rest.length + 2) (some (.one set)) (inp.next style.extended false)
    let plain (c : Char) : Except RegexFault (Option Regex × RegexInput) :=
      if style.extended then .error .nothingToRepeat else one (.single c) inp
    match inp.token with
    | .char c => one (.single c) inp
    | .closesCount => one (.single '\x7d') inp
    | .letters set => one set inp
    | .dot => one (if style.multiline then ⟨true, [('\n', '\n')]⟩ else .all) inp
    | .bracket =>
      match readSet style inp.rest with
      | .error e => .error e
      | .ok (set, rest) =>
        readRepeats style.extended (rest.length + 2) (some (.one set))
          ({ inp with rest }.next style.extended false)
    | .anchor a => .ok (some (.anchor a), inp.next style.extended false)
    | .same index =>
      if inp.complete.contains index then
        readRepeats style.extended (inp.rest.length + 2) (some (.same index)) (inp.next style.extended false)
      else .error .badReference
    | .opens =>
      let index := inp.groups + 1
      let inp := { inp with groups := index }.next style.extended true
      let body : Except RegexFault (Option Regex × RegexInput) :=
        if inp.token == .closes then .ok (none, inp)
        else readEither style true fuel inp
      match body with
      | .error e => .error e
      | .ok (r, inp) =>
        if inp.token != .closes then .error .openGroup
        else
          let inp := { inp with complete := index :: inp.complete }
          readRepeats style.extended (inp.rest.length + 2) (some (.group index (r.getD .empty)))
            (inp.next style.extended false)
    | .star => plain '*'
    | .plus => plain '+'
    | .question => plain '?'
    | .opensCount => .error .nothingToRepeat
    | .closes => .error .closedGroup
    | .backslash => .error .trailingBackslash
    | .either | .done => .ok (none, inp)

end

def readRegex (style : RegexStyle) (text : List Char) : Except RegexFault Matcher :=
  let inp : RegexInput := ⟨.done, text, 0, []⟩
  match readEither style false (4 * text.length + 8) (inp.next style.extended true) with
  | .error e => .error e
  | .ok (r, inp) => .ok (.ofRegex (r.getD .empty) inp.groups style.ignoreCase style.multiline)

end PartyBridge.Tool
