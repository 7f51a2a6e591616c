import PartyBridge.Shell.Pattern

/-!
# Fields

Expansion gives cells: characters that keep their meaning, characters that stand for themselves, and
the marks of quotations. Regions of the cells came from expansions outside of quotations; they are cut
into fields at separators.
-/

namespace PartyBridge.Shell

inductive Cell where
  | char (c : Char)
  | literal (c : Char)
  | mark
deriving Repr, DecidableEq, Inhabited

namespace Cell

def char? : Cell → Option Char
  | .char c | .literal c => some c
  | .mark => none

def text (cells : List Cell) : List Char :=
  cells.filterMap char?

/-- Whether a cell is the separator between parameters. -/
def isNul (cell : Cell) : Bool :=
  cell.char? == some '\x00'

/-- The pattern that cells spell: a character that stands for itself follows a backslash. A backslash
that keeps its meaning quotes what follows it already. -/
def pattern (cells : List Cell) : List Char :=
  go true cells
where
  go : Bool → List Cell → List Char
    | _, [] => []
    | _, .mark :: rest => go true rest
    | _, .char c :: rest => c :: go (c != '\x5c') rest
    | true, .literal c :: rest => '\x5c' :: c :: go true rest
    | false, .literal c :: rest => c :: go true rest

end Cell

/-- Cells from `start` up to `stop` that are cut at separators, or only between parameters. -/
structure Region where
  start : Nat
  stop : Nat
  nulOnly : Bool
deriving Repr, DecidableEq, Inhabited

namespace Region

/-- The regions before a place; one that reaches over it ends there. -/
def cutAt (regions : List Region) (place : Nat) : List Region :=
  match regions with
  | [] => []
  | first :: rest =>
    if place < first.stop then if place < first.start then [] else [{ first with stop := place }]
    else
      let kept := first :: rest.takeWhile fun r => r.start < place
      kept.map fun r => if place < r.stop then { r with stop := place } else r

end Region

/-- A cut into fields on its way: the place where the current field starts, the fields before it,
newest first, whether the last separator was a blank, where the blanks at the end start, and how many
fields may still be cut off. -/
structure Cutting where
  start : Nat
  fields : List (List Cell)
  afterBlank : Bool
  tail : Option Nat
  left : Option Nat
deriving Repr, Inhabited

def isBlankSeparator (c : Char) : Bool :=
  c == ' ' || c == '\t' || c == '\n' || c == '\x00'

namespace Cutting

def upTo (cells : Array Cell) (cut : Cutting) (place : Nat) : List Cell :=
  (cells.extract cut.start place).toList

/-- One cell of a region. `plain` tells that blanks count as such, which they do not around separators
of parameters. -/
def step (cells : Array Cell) (separators : List Char) (plain : Bool) (place : Nat) (cut : Cutting) : Cutting :=
  let c := ((cells[place]?).bind Cell.char?).getD 'x'
  let separates := c == '\x00' || separators.contains c
  let blank := separates && isBlankSeparator c
  if cut.left = some 0 then
    if blank then { cut with tail := some (cut.tail.getD place) }
    else { cut with tail := if separates && cut.afterBlank then cut.tail else none, afterBlank := false }
  else
    let skipping := cut.afterBlank
    let cut := if skipping then { cut with start := if separates then place + 1 else place } else cut
    if skipping && blank then cut
    else if separates && !skipping then
      let cut := if plain then { cut with afterBlank := blank } else cut
      if place = cut.start && cut.afterBlank then { cut with start := place + 1, afterBlank := false }
      else
        match cut.left with
        | some 1 => { cut with left := some 0, tail := some place }
        | left =>
          { cut with
            fields := cut.upTo cells place :: cut.fields
            start := place + 1
            left := left.map (· - 1) }
    else { cut with afterBlank := false }

end Cutting

/-- The fields of cells. At most `limit` fields are cut; the last one has the rest without the blanks at
its end. -/
def cutFields (cells : Array Cell) (regions : List Region) (separators : List Char) (limit : Option Nat) :
    List (List Cell) :=
  let (cut, nulOnly) := regions.foldl
    (fun (cut, before) r =>
      let plain := !before && !r.nulOnly
      let seps := if r.nulOnly then [] else separators
      let cut := (List.range' r.start (r.stop - r.start)).foldl
        (fun cut place => cut.step cells seps plain place) { cut with afterBlank := false }
      (cut, r.nulOnly))
    ((⟨0, [], false, none, limit⟩ : Cutting), false)
  let last := cut.upTo cells (cut.tail.getD cells.size)
  let last := last.takeWhile fun cell => !cell.isNul
  if last.isEmpty && !nulOnly then cut.fields.reverse else (last :: cut.fields).reverse

end PartyBridge.Shell
