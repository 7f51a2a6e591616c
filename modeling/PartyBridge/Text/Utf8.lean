/-!
# UTF-8 text

Byte sequences are lists of bytes. `pieces` cuts a byte sequence into characters and maximal broken
parts; `decodeLossy` reads each broken part as U+FFFD and `decode?` refuses the sequence when there
is one.
-/

namespace PartyBridge

abbrev Bytes := List UInt8

namespace Utf8

def encodeChars (text : List Char) : Bytes :=
  text.flatMap String.utf8EncodeChar

def encode (text : String) : Bytes :=
  encodeChars text.toList

/-- What a first byte above 0x7F promises: how many bytes follow, the bits it carries, and the
range the second byte must lie in. -/
structure Lead where
  more : Nat
  bits : Nat
  low : UInt8
  high : UInt8
deriving Repr, DecidableEq

/-- The promise of a first byte above 0x7F, or none when no character starts with it. -/
def lead? (b : UInt8) : Option Lead :=
  if b < 0xC2 then none
  else if b ≤ 0xDF then some ⟨1, b.toNat - 0xC0, 0x80, 0xBF⟩
  else if b = 0xE0 then some ⟨2, 0, 0xA0, 0xBF⟩
  else if b = 0xED then some ⟨2, 13, 0x80, 0x9F⟩
  else if b ≤ 0xEF then some ⟨2, b.toNat - 0xE0, 0x80, 0xBF⟩
  else if b = 0xF0 then some ⟨3, 0, 0x90, 0xBF⟩
  else if b ≤ 0xF3 then some ⟨3, b.toNat - 0xF0, 0x80, 0xBF⟩
  else if b = 0xF4 then some ⟨3, 4, 0x80, 0x8F⟩
  else none

/-- A character, or one maximal part that no character can start with. -/
inductive Piece where
  | char (c : Char)
  | broken
deriving Repr, DecidableEq

/-- The rest of a character that still owes `n` bytes and has collected `bits` so far. -/
def continuation : Nat → Nat → Bytes → Piece × Bytes
  | 0, bits, rest => (.char (Char.ofNat bits), rest)
  | _ + 1, _, [] => (.broken, [])
  | n + 1, bits, b :: rest =>
    if 0x80 ≤ b ∧ b ≤ 0xBF then continuation n (bits * 64 + (b.toNat - 0x80)) rest
    else (.broken, b :: rest)

def firstPiece (b : UInt8) (rest : Bytes) : Piece × Bytes :=
  if b < 0x80 then (.char (Char.ofNat b.toNat), rest)
  else
    match lead? b, rest with
    | none, _ => (.broken, rest)
    | some _, [] => (.broken, [])
    | some l, c :: more =>
      if l.low ≤ c ∧ c ≤ l.high then
        continuation (l.more - 1) (l.bits * 64 + (c.toNat - 0x80)) more
      else (.broken, rest)

theorem length_continuation (n bits : Nat) (rest : Bytes) :
    (continuation n bits rest).2.length ≤ rest.length := by
  fun_induction continuation n bits rest with
  | case3 n bits b rest tail ih => exact Nat.le_succ_of_le ih
  | _ => simp

theorem length_firstPiece (b : UInt8) (rest : Bytes) :
    (firstPiece b rest).2.length ≤ rest.length := by
  unfold firstPiece
  split
  · simp
  · split
    · simp
    · simp
    · split
      · exact Nat.le_trans (length_continuation _ _ _) (by simp)
      · simp

def piecesAfter (done : List Piece) : Bytes → List Piece
  | [] => done.reverse
  | b :: rest => piecesAfter ((firstPiece b rest).1 :: done) (firstPiece b rest).2
termination_by bytes => bytes.length
decreasing_by
  have := length_firstPiece b rest
  simp only [List.length_cons]
  omega

/-- The characters and maximal broken parts of a byte sequence, in order. -/
def pieces (bytes : Bytes) : List Piece :=
  piecesAfter [] bytes

/-- A piece as a character, U+FFFD standing for a broken part. -/
def Piece.toChar : Piece → Char
  | .char c => c
  | .broken => Char.ofNat 0xFFFD

def Piece.char? : Piece → Option Char
  | .char c => some c
  | .broken => none

/-- Every byte sequence read as text, each maximal broken part as one U+FFFD. -/
def decodeLossy (bytes : Bytes) : String :=
  String.ofList ((pieces bytes).map Piece.toChar)

/-- The text a byte sequence spells, or none when a part of it is broken. -/
def decode? (bytes : Bytes) : Option String :=
  let parts := pieces bytes
  if parts.all (fun part => part.char?.isSome) then some (String.ofList (parts.map Piece.toChar))
  else none

end Utf8

end PartyBridge
