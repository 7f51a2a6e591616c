/-!
# Regular expressions

An expression is compiled into a small program. A match at a place is the longest one that the program
accepts there; of several ways to the same end the first one in the program's order sets the groups.
-/

namespace PartyBridge.Tool

/-- A set of characters: those of some ranges, or all others. -/
structure CharSet where
  inverted : Bool
  ranges : List (Char × Char)
deriving Repr, DecidableEq, Inhabited

namespace CharSet

def holds (s : CharSet) (c : Char) : Bool :=
  s.ranges.any (fun (low, high) => low ≤ c && c ≤ high) != s.inverted

def single (c : Char) : CharSet :=
  ⟨false, [(c, c)]⟩

def all : CharSet :=
  ⟨true, []⟩

/-- The set with both cases of each of its letters. -/
def foldCase (s : CharSet) : CharSet :=
  let within (low high base top : Char) (other : Char) : List (Char × Char) :=
    let low := max low.toNat base.toNat
    let high := min high.toNat top.toNat
    if low ≤ high then
      [(Char.ofNat (other.toNat + (low - base.toNat)), Char.ofNat (other.toNat + (high - base.toNat)))]
    else []
  { s with
    ranges := s.ranges.flatMap fun (low, high) =>
      (low, high) :: (within low high 'a' 'z' 'A' ++ within low high 'A' 'Z' 'a') }

end CharSet

inductive Anchor where
  | lineStart
  | lineEnd
  | textStart
  | textEnd
  | wordEdge
  | notWordEdge
  | wordStart
  | wordEnd
deriving Repr, DecidableEq, Inhabited

inductive Regex where
  | empty
  | one (set : CharSet)
  | anchor (a : Anchor)
  | seq (first second : Regex)
  | either (first second : Regex)
  | many (body : Regex)
  | group (index : Nat) (body : Regex)
  | same (index : Nat)
deriving Repr, DecidableEq, Inhabited

/-- An instruction; places are numbers of instructions. -/
inductive Instr where
  | one (set : CharSet)
  | anchor (a : Anchor)
  | split (first second : Nat)
  | jump (target : Nat)
  | save (slot : Nat)
  | same (index : Nat)
  | accept
deriving Repr, DecidableEq, Inhabited

namespace Regex

def size : Regex → Nat
  | .empty => 0
  | .one _ | .anchor _ | .same _ => 1
  | .seq a b => a.size + b.size
  | .either a b => a.size + b.size + 2
  | .many a => a.size + 2
  | .group _ a => a.size + 2

/-- The instructions for an expression, in front of others, where the first one has a number. -/
def code : Regex → Nat → List Instr → List Instr
  | .empty, _, rest => rest
  | .one set, _, rest => .one set :: rest
  | .anchor a, _, rest => .anchor a :: rest
  | .same index, _, rest => .same index :: rest
  | .seq a b, at', rest => a.code at' (b.code (at' + a.size) rest)
  | .either a b, at', rest =>
    let other := at' + a.size + 2
    .split (at' + 1) other :: a.code (at' + 1) (.jump (other + b.size) :: b.code other rest)
  | .many a, at', rest =>
    .split (at' + 1) (at' + a.size + 2) :: a.code (at' + 1) (.jump at' :: rest)
  | .group index a, at', rest =>
    .save (2 * index) :: a.code (at' + 1) (.save (2 * index + 1) :: rest)

/-- Whether an expression asks for a repetition of a group's text. -/
def recalls : Regex → Bool
  | .same _ => true
  | .seq a b | .either a b => a.recalls || b.recalls
  | .many a | .group _ a => a.recalls
  | _ => false

def times (r : Regex) : Nat → Regex
  | 0 => .empty
  | 1 => r
  | n + 1 => .seq r (r.times n)

def atMost (r : Regex) : Nat → Regex
  | 0 => .empty
  | 1 => .either r .empty
  | n + 1 => .either (.seq (r.atMost n) r) .empty

/-- At least `least` times an expression, and at most `most` times. -/
def repeated (r : Regex) (least : Nat) (most : Option Nat) : Regex :=
  match most with
  | none => if least = 0 then .many r else .seq (r.times least) (.many r)
  | some most => if least = 0 then r.atMost most else .seq (r.times least) (r.atMost (most - least))

end Regex

structure Matcher where
  code : Array Instr
  groups : Nat
  recalls : Bool
  ignoreCase : Bool
  multiline : Bool
deriving Repr, DecidableEq, Inhabited

structure Match where
  start : Nat
  stop : Nat
  slots : Array (Option Nat)
deriving Repr, DecidableEq, Inhabited

def Match.group? (m : Match) (index : Nat) : Option (Nat × Nat) :=
  if index = 0 then some (m.start, m.stop)
  else
    match m.slots[2 * index]?.join, m.slots[2 * index + 1]?.join with
    | some low, some high => some (low, high)
    | _, _ => none

def isWordChar (c : Char) : Bool :=
  c.isAlphanum || c == '_'

namespace Matcher

def ofRegex (r : Regex) (groups : Nat) (ignoreCase multiline : Bool) : Matcher :=
  ⟨(r.code 0 [.accept]).toArray, groups, r.recalls, ignoreCase, multiline⟩

def holds (m : Matcher) (text : Array Char) (a : Anchor) (at' : Nat) : Bool :=
  let before := at' != 0 && text[at' - 1]?.any isWordChar
  let behind := text[at']?.any isWordChar
  match a with
  | .lineStart => at' = 0 || (m.multiline && text[at' - 1]? == some '\n')
  | .lineEnd => at' = text.size || (m.multiline && text[at']? == some '\n')
  | .textStart => at' = 0
  | .textEnd => at' = text.size
  | .wordEdge => before != behind
  | .notWordEdge => before == behind
  | .wordStart => !before && behind
  | .wordEnd => before && !behind

/-! ### The longest match -/

/-- The instructions that can be reached at a place without a character. -/
def reach (m : Matcher) (text : Array Char) (at' : Nat) : Nat → List Nat → Array Bool → Array Bool
  | 0, _, seen => seen
  | _ + 1, [], seen => seen
  | fuel + 1, pc :: todo, seen =>
    if (seen[pc]?).getD true then reach m text at' fuel todo seen
    else
      let seen := seen.setIfInBounds pc true
      match m.code[pc]? with
      | some (.anchor a) => reach m text at' fuel (if m.holds text a at' then (pc + 1) :: todo else todo) seen
      | some (.split first second) => reach m text at' fuel (first :: second :: todo) seen
      | some (.jump target) => reach m text at' fuel (target :: todo) seen
      | some (.save _) => reach m text at' fuel ((pc + 1) :: todo) seen
      | _ => reach m text at' fuel todo seen

def reachAll (m : Matcher) (text : Array Char) (at' : Nat) (from' : List Nat) : Array Bool :=
  m.reach text at' (3 * m.code.size + from'.length + 1) from' (Array.replicate m.code.size false)

/-- Where the longest match ends, given the instructions that are reached at a place. -/
def longestFrom (m : Matcher) (text : Array Char) : Nat → Nat → Array Bool → Option Nat → Option Nat
  | 0, _, _, best => best
  | fuel + 1, at', seen, best =>
    let best := if (seen[m.code.size - 1]?).getD false then some at' else best
    match text[at']? with
    | none => best
    | some c =>
      let goes (pc : Nat) : Bool :=
        match m.code[pc]? with
        | some (.one set) => set.holds c
        | _ => false
      let next := ((List.range m.code.size).filter fun pc => (seen[pc]?).getD false && goes pc).map (· + 1)
      if next.isEmpty then best
      else longestFrom m text fuel (at' + 1) (m.reachAll text (at' + 1) next) best

def longest (m : Matcher) (text : Array Char) (start : Nat) : Option Nat :=
  m.longestFrom text (text.size + 1 - start) start (m.reachAll text start [0]) none

/-! ### The groups of a match -/

/-- A way that has not been followed: the instruction, the place, the groups so far, and the
instructions that were passed at this place. -/
structure Way where
  pc : Nat
  place : Nat
  slots : Array (Option Nat)
  passed : List Nat
deriving Inhabited

def equal (m : Matcher) (a b : Char) : Bool :=
  a == b || (m.ignoreCase && a.toLower == b.toLower)

/-- The length of a group's text if it is repeated at a place. -/
def recalled (m : Matcher) (text : Array Char) (slots : Array (Option Nat)) (index at' : Nat) : Option Nat :=
  match slots[2 * index]?.join, slots[2 * index + 1]?.join with
  | some low, some high =>
    let length := high - low
    let matches' := (List.range length).all fun i =>
      match text[low + i]?, text[at' + i]? with
      | some a, some b => m.equal a b
      | _, _ => false
    if matches' then some length else none
  | _, _ => none

def onward (m : Matcher) (text : Array Char) (w : Way) : List Way :=
  let next (pc : Nat) : Way := { w with pc, passed := w.pc :: w.passed }
  match m.code[w.pc]? with
  | some (.one set) =>
    match text[w.place]? with
    | some c => if set.holds c then [⟨w.pc + 1, w.place + 1, w.slots, []⟩] else []
    | none => []
  | some (.anchor a) => if m.holds text a w.place then [next (w.pc + 1)] else []
  | some (.split first second) => [next first, next second]
  | some (.jump target) => [next target]
  | some (.save slot) => [{ next (w.pc + 1) with slots := w.slots.setIfInBounds slot (some w.place) }]
  | some (.same index) =>
    match m.recalled text w.slots index w.place with
    | some 0 => [next (w.pc + 1)]
    | some n => [⟨w.pc + 1, w.place + n, w.slots, []⟩]
    | none => []
  | _ => []

/-- Follows ways to an accepting instruction at a given place. No instruction is tried twice at one
place. -/
def follow (m : Matcher) (text : Array Char) (start stop : Nat) :
    Nat → List Way → Array Bool → Option (Array (Option Nat))
  | 0, _, _ => none
  | _ + 1, [], _ => none
  | fuel + 1, w :: ways, tried =>
    let mark := (w.place - start) * m.code.size + w.pc
    if stop < w.place || (tried[mark]?).getD true then follow m text start stop fuel ways tried
    else if m.code[w.pc]? == some .accept then
      if w.place = stop then some w.slots else follow m text start stop fuel ways tried
    else follow m text start stop fuel (m.onward text w ++ ways) (tried.setIfInBounds mark true)

/-- Follows all ways and keeps the longest match, the first of those of one length. -/
def explore (m : Matcher) (text : Array Char) :
    Nat → List Way → Option (Nat × Array (Option Nat)) → Option (Nat × Array (Option Nat))
  | 0, _, best => best
  | _ + 1, [], best => best
  | fuel + 1, w :: ways, best =>
    if w.passed.contains w.pc then explore m text fuel ways best
    else if m.code[w.pc]? == some .accept then
      let better := best.all fun (stop, _) => stop < w.place
      explore m text fuel ways (if better then some (w.place, w.slots) else best)
    else explore m text fuel (m.onward text w ++ ways) best

/-- How many ways are followed at most for an expression that repeats groups. -/
def patience : Nat := 1000000

def matchAt (m : Matcher) (text : Array Char) (start : Nat) : Option Match :=
  let slots := Array.replicate (2 * (m.groups + 1)) none
  if m.recalls then
    (m.explore text patience [⟨0, start, slots, []⟩] none).map fun (stop, slots) => ⟨start, stop, slots⟩
  else
    match m.longest text start with
    | none => none
    | some stop =>
      if m.groups = 0 then some ⟨start, stop, slots⟩
      else
        let marks := (stop - start + 1) * m.code.size
        (m.follow text start stop (3 * marks + 2) [⟨0, start, slots, []⟩] (Array.replicate marks false)).map
          fun slots => ⟨start, stop, slots⟩

def findFrom (m : Matcher) (text : Array Char) : Nat → Nat → Option Match
  | 0, _ => none
  | fuel + 1, start => (m.matchAt text start).or (findFrom m text fuel (start + 1))

def find (m : Matcher) (text : Array Char) (start : Nat) : Option Match :=
  if text.size < start then none else m.findFrom text (text.size + 1 - start) start

end Matcher

end PartyBridge.Tool
