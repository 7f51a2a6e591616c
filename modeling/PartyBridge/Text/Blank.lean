/-!
# Blanks and control characters

`isBlank` is the White_Space property and `isControl` the category Cc. `words` gives the maximal
runs of characters that are no blanks; `trim` removes blanks from both ends.
-/

namespace PartyBridge.Text

/-- Characters with the property White_Space. -/
def isBlank (c : Char) : Bool :=
  let n := c.toNat
  (0x09 ≤ n && n ≤ 0x0D) || n == 0x20 || n == 0x85 || n == 0xA0 || n == 0x1680 ||
    (0x2000 ≤ n && n ≤ 0x200A) || n == 0x2028 || n == 0x2029 || n == 0x202F || n == 0x205F ||
    n == 0x3000

def isControl (c : Char) : Bool :=
  let n := c.toNat
  n < 0x20 || (0x7F ≤ n && n ≤ 0x9F)

theorem length_dropWhile_le {α : Type} (p : α → Bool) (xs : List α) :
    (xs.dropWhile p).length ≤ xs.length := by
  induction xs with
  | nil => simp
  | cons x xs ih =>
    rw [List.dropWhile_cons]
    split
    · exact Nat.le_succ_of_le ih
    · simp

def wordsAfter (found : List (List Char)) (text : List Char) : List (List Char) :=
  match _h : text.dropWhile isBlank with
  | [] => found.reverse
  | c :: rest =>
    wordsAfter ((c :: rest.takeWhile (!isBlank ·)) :: found) (rest.dropWhile (!isBlank ·))
termination_by text.length
decreasing_by
  have outer := length_dropWhile_le isBlank text
  have inner := length_dropWhile_le (!isBlank ·) rest
  rw [_h, List.length_cons] at outer
  omega

/-- The maximal runs of characters that are no blanks, in order. -/
def words (text : List Char) : List (List Char) :=
  wordsAfter [] text

/-- Drops the longest final run of characters that satisfy `p`. -/
def dropEndWhile (p : Char → Bool) (text : List Char) : List Char :=
  (text.reverse.dropWhile p).reverse

def trim (text : List Char) : List Char :=
  dropEndWhile isBlank (text.dropWhile isBlank)

def trimEnd (text : List Char) : List Char :=
  dropEndWhile isBlank text

def isLineEnd (c : Char) : Bool :=
  c == '\n' || c == '\r'

/-- A line without its line ends. -/
def chomp (line : List Char) : List Char :=
  dropEndWhile isLineEnd line

def occurs (needle : List Char) : List Char → Bool
  | [] => needle.isEmpty
  | c :: text => needle.isPrefixOf (c :: text) || occurs needle text

end PartyBridge.Text
