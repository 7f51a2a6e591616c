import Mathlib.Data.List.Basic
import PartyBridge.Proofs.Text.Utf8

/-!
# Finding a text in bytes that may be broken

A byte that can start a character is never taken into a broken part, so a text that stands among bytes of any
kind is read as it is (`pieces_boundary`). And a character that was read, unless it is the U+FFFD of a broken
part, was written there (`firstPiece_char`). So a text without U+FFFD is found in what is read lossily exactly
if it is found in the bytes (`infix_decodeLossy`).
-/

namespace PartyBridge.Utf8

/-! ### Characters that are read are written there -/

theorem lead?_range {b : UInt8} {l : Lead} (lead : lead? b = some l) : 0xC2 ≤ b.toNat ∧ b.toNat ≤ 0xF4 := by
  simp only [lead?, UInt8.lt_iff_toNat_lt, UInt8.le_iff_toNat_le, ← UInt8.toNat_inj, UInt8.reduceToNat] at lead
  by_cases small : b.toNat < 0xC2
  · rw [if_pos small] at lead
    cases lead
  · by_cases large : 0xF4 < b.toNat
    · iterate 8 rw [if_neg (by omega)] at lead
      cases lead
    · omega

theorem toNat_ofNat_of_valid {v : Nat} (valid : v < 0xD800 ∨ 0xDFFF < v ∧ v < 0x110000) :
    (Char.ofNat v).val.toNat = v := by
  have isValid : v.isValidChar := valid
  rw [Char.ofNat, dif_pos isValid]
  rfl

theorem byte_eq {b : UInt8} {n : Nat} (same : b.toNat = n) : UInt8.ofNat n = b := by
  rw [← same, UInt8.ofNat_toNat]

section Written
variable {b c d e : UInt8}

theorem encode_one (small : b.toNat ≤ 0x7F) : String.utf8EncodeChar (Char.ofNat b.toNat) = [b] := by
  unfold String.utf8EncodeChar
  dsimp only
  rw [toNat_ofNat_of_valid (by omega), if_pos small, byte_eq rfl]

theorem encode_two (least : 0xC2 ≤ b.toNat) (most : b.toNat ≤ 0xDF) (second : IsTail c) :
    String.utf8EncodeChar (Char.ofNat ((b.toNat - 0xC0) * 64 + (c.toNat - 0x80))) = [b, c] := by
  obtain ⟨low, high⟩ := second
  unfold String.utf8EncodeChar
  dsimp only
  rw [toNat_ofNat_of_valid (by omega), if_neg (by omega), if_pos (by omega)]
  rw [byte_eq (b := b) (by omega), byte_eq (b := c) (by omega)]

theorem encode_three (least : 0xE0 ≤ b.toNat) (most : b.toNat ≤ 0xEF) (second : IsTail c) (third : IsTail d)
    (long : b.toNat = 0xE0 → 0xA0 ≤ c.toNat) (plain : b.toNat = 0xED → c.toNat ≤ 0x9F) :
    String.utf8EncodeChar
      (Char.ofNat (((b.toNat - 0xE0) * 64 + (c.toNat - 0x80)) * 64 + (d.toNat - 0x80))) = [b, c, d] := by
  obtain ⟨low, high⟩ := second
  obtain ⟨low', high'⟩ := third
  unfold String.utf8EncodeChar
  dsimp only
  rw [toNat_ofNat_of_valid (by omega), if_neg (by omega), if_neg (by omega), if_pos (by omega)]
  rw [byte_eq (b := b) (by omega), byte_eq (b := c) (by omega), byte_eq (b := d) (by omega)]

theorem encode_four (least : 0xF0 ≤ b.toNat) (most : b.toNat ≤ 0xF4) (second : IsTail c) (third : IsTail d)
    (fourth : IsTail e) (long : b.toNat = 0xF0 → 0x90 ≤ c.toNat) (inside : b.toNat = 0xF4 → c.toNat ≤ 0x8F) :
    String.utf8EncodeChar (Char.ofNat ((((b.toNat - 0xF0) * 64 + (c.toNat - 0x80)) * 64 +
      (d.toNat - 0x80)) * 64 + (e.toNat - 0x80))) = [b, c, d, e] := by
  obtain ⟨low, high⟩ := second
  obtain ⟨low', high'⟩ := third
  obtain ⟨low'', high''⟩ := fourth
  unfold String.utf8EncodeChar
  dsimp only
  rw [toNat_ofNat_of_valid (by omega), if_neg (by omega), if_neg (by omega), if_neg (by omega)]
  rw [byte_eq (b := b) (by omega), byte_eq (b := c) (by omega), byte_eq (b := d) (by omega),
    byte_eq (b := e) (by omega)]

end Written

/-- A character that is complete has taken the bytes that it still owed. -/
theorem continuation_char {n bits : Nat} {rest rest' : Bytes} {c : Char}
    (read : continuation n bits rest = (.char c, rest')) :
    ∃ tails, rest = tails ++ rest' ∧ tails.length = n ∧ (∀ b ∈ tails, IsTail b) ∧
      c = Char.ofNat (tails.foldl (fun bits b => bits * 64 + (b.toNat - 0x80)) bits) := by
  fun_induction continuation n bits rest with
  | case1 bits rest =>
    cases read
    exact ⟨[], rfl, rfl, by simp, rfl⟩
  | case2 => cases read
  | case3 n bits b rest tail ih =>
    obtain ⟨tails, rfl, length, all, whole⟩ := ih read
    have inside : IsTail b := by simpa [IsTail, UInt8.le_iff_toNat_le] using tail
    exact ⟨b :: tails, rfl, by rw [List.length_cons, length], List.forall_mem_cons.mpr ⟨inside, all⟩, by
      rw [List.foldl_cons, whole]⟩
  | case4 => cases read

/-- What a first byte promises and the bytes behind it keep is what is written for a character. -/
theorem encode_lead {b second : UInt8} {l : Lead} {tails : Bytes} (lead : lead? b = some l)
    (above : l.low.toNat ≤ second.toNat) (below : second.toNat ≤ l.high.toNat)
    (length : tails.length = l.more - 1) (all : ∀ t ∈ tails, IsTail t) :
    String.utf8EncodeChar (Char.ofNat (tails.foldl (fun bits t => bits * 64 + (t.toNat - 0x80))
      (l.bits * 64 + (second.toNat - 0x80)))) = b :: second :: tails := by
  obtain ⟨least, most⟩ := lead?_range lead
  by_cases two : b.toNat ≤ 0xDF
  · cases (lead?_two least two).symm.trans lead
    obtain rfl := List.eq_nil_of_length_eq_zero length
    exact encode_two least two ⟨above, below⟩
  · by_cases three : b.toNat ≤ 0xEF
    · cases (lead?_three (by omega) three).symm.trans lead
      obtain ⟨third, rfl⟩ := List.length_eq_one_iff.mp length
      have low : 0x80 ≤ second.toNat ∧ (b.toNat = 0xE0 → 0xA0 ≤ second.toNat) := by
        dsimp only at above
        split at above <;> simp at above <;> omega
      have high : second.toNat ≤ 0xBF ∧ (b.toNat = 0xED → second.toNat ≤ 0x9F) := by
        dsimp only at below
        split at below <;> simp at below <;> omega
      exact encode_three (by omega) three ⟨low.1, high.1⟩ (all third List.mem_cons_self) low.2 high.2
    · cases (lead?_four (by omega) most).symm.trans lead
      obtain ⟨third, fourth, rfl⟩ := List.length_eq_two.mp length
      have low : 0x80 ≤ second.toNat ∧ (b.toNat = 0xF0 → 0x90 ≤ second.toNat) := by
        dsimp only at above
        split at above <;> simp at above <;> omega
      have high : second.toNat ≤ 0xBF ∧ (b.toNat = 0xF4 → second.toNat ≤ 0x8F) := by
        dsimp only at below
        split at below <;> simp at below <;> omega
      exact encode_four (by omega) most ⟨low.1, high.1⟩ (all third List.mem_cons_self)
        (all fourth (by simp)) low.2 high.2

/-- A character that is read was written there. -/
theorem firstPiece_char {b : UInt8} {rest rest' : Bytes} {c : Char}
    (read : firstPiece b rest = (.char c, rest')) : b :: rest = String.utf8EncodeChar c ++ rest' := by
  unfold firstPiece at read
  split at read
  · rename_i small
    cases read
    rw [encode_one (Nat.le_of_lt_succ (UInt8.lt_iff_toNat_lt.mp small))]
    rfl
  · split at read
    · cases read
    · cases read
    · rename_i l second more lead
      split at read
      · rename_i inside
        obtain ⟨tails, rfl, length, all, rfl⟩ := continuation_char read
        rw [encode_lead lead (UInt8.le_iff_toNat_le.mp inside.1) (UInt8.le_iff_toNat_le.mp inside.2) length all]
        rfl
      · cases read

theorem pieces_nil : pieces [] = [] := by
  simp [pieces, piecesAfter]

/-- Where characters are read, what is written for them stands. -/
theorem pieces_chars {text : List Char} {bytes : Bytes} {more : List Piece}
    (read : pieces bytes = text.map .char ++ more) : ∃ rest, bytes = encodeChars text ++ rest := by
  induction text generalizing bytes with
  | nil => exact ⟨bytes, rfl⟩
  | cons c text ih =>
    cases bytes with
    | nil => simp [pieces_nil] at read
    | cons b rest =>
      rw [pieces_cons, List.map_cons, List.cons_append, List.cons.injEq] at read
      obtain ⟨first, others⟩ := read
      obtain ⟨rest', written⟩ := ih others
      refine ⟨rest', ?_⟩
      rw [firstPiece_char (Prod.ext first written), encodeChars_cons, List.append_assoc]

theorem continuation_rest (n bits : Nat) (rest : Bytes) : (continuation n bits rest).2 <:+ rest := by
  fun_induction continuation n bits rest with
  | case1 bits rest => exact List.suffix_rfl
  | case2 n bits => exact List.suffix_rfl
  | case3 n bits b rest tail ih => exact ih.trans (List.suffix_cons b rest)
  | case4 n bits b rest other => exact List.suffix_rfl

theorem firstPiece_rest (b : UInt8) (rest : Bytes) : (firstPiece b rest).2 <:+ rest := by
  unfold firstPiece
  split
  · exact List.suffix_rfl
  · split
    · exact List.suffix_rfl
    · exact List.suffix_rfl
    · split
      · exact (continuation_rest _ _ _).trans (List.suffix_cons _ _)
      · exact List.suffix_rfl

/-- Pieces behind others are those of the bytes behind. -/
theorem pieces_behind {bytes : Bytes} {early late : List Piece} (cut : pieces bytes = early ++ late) :
    ∃ back, back <:+ bytes ∧ pieces back = late := by
  induction early generalizing bytes with
  | nil => exact ⟨bytes, List.suffix_rfl, cut⟩
  | cons piece early ih =>
    cases bytes with
    | nil => simp [pieces_nil] at cut
    | cons b rest =>
      rw [pieces_cons, List.cons_append, List.cons.injEq] at cut
      obtain ⟨back, behind, read⟩ := ih cut.2
      exact ⟨back, (behind.trans (firstPiece_rest b rest)).trans (List.suffix_cons b rest), read⟩

/-! ### Texts are read wherever they stand -/

/-- A second byte continues a character, whatever the first byte. -/
theorem lead?_tail {b c : UInt8} {l : Lead} (lead : lead? b = some l) (above : l.low ≤ c) (below : c ≤ l.high) :
    IsTail c := by
  have bounds : 0x80 ≤ l.low.toNat ∧ l.high.toNat ≤ 0xBF := by
    unfold lead? at lead
    repeat' split at lead
    all_goals cases lead
    all_goals simp
  rw [UInt8.le_iff_toNat_le] at above below
  exact ⟨Nat.le_trans bounds.1 above, Nat.le_trans below bounds.2⟩

section Boundary
variable {b : UInt8} (first : ¬ IsTail b) (rest : Bytes)
include first

theorem continuation_boundary (n bits : Nat) (front : Bytes) :
    continuation n bits (front ++ b :: rest) =
      ((continuation n bits front).1, (continuation n bits front).2 ++ b :: rest) := by
  fun_induction continuation n bits front with
  | case1 bits front => simp [continuation]
  | case2 n bits =>
    have outside : ¬ (0x80 ≤ b ∧ b ≤ 0xBF) := by simpa [IsTail, UInt8.le_iff_toNat_le] using first
    rw [List.nil_append, continuation, if_neg outside]
  | case3 n bits c front tail ih => rw [List.cons_append, continuation, if_pos tail, ih]
  | case4 n bits c front other => rw [List.cons_append, continuation, if_neg other]

theorem firstPiece_boundary (c : UInt8) (front : Bytes) :
    firstPiece c (front ++ b :: rest) =
      ((firstPiece c front).1, (firstPiece c front).2 ++ b :: rest) := by
  unfold firstPiece
  by_cases single : c < 0x80
  · simp [single]
  · simp only [if_neg single]
    cases lead : lead? c with
    | none => rfl
    | some l =>
      cases front with
      | nil =>
        have outside : ¬ (l.low ≤ b ∧ b ≤ l.high) := fun inside => first (lead?_tail lead inside.1 inside.2)
        simp [outside]
      | cons d more =>
        simp only [List.cons_append]
        split
        · exact continuation_boundary first rest _ _ more
        · rfl

/-- The pieces in front of a byte that continues no character do not change with what follows. -/
theorem pieces_boundary (front : Bytes) :
    pieces (front ++ b :: rest) = pieces front ++ pieces (b :: rest) := by
  induction size : front.length using Nat.strongRecOn generalizing front with
  | ind n ih =>
    cases front with
    | nil => simp [pieces_nil]
    | cons c front =>
      have shorter : (firstPiece c front).2.length < n := by
        rw [← size]
        exact Nat.lt_succ_of_le (length_firstPiece c front)
      rw [List.cons_append, pieces_cons, firstPiece_boundary first, ih _ shorter _ rfl, pieces_cons c front,
        List.cons_append]

end Boundary

theorem firstPiece_tail {b : UInt8} (tail : IsTail b) (rest : Bytes) : firstPiece b rest = (.broken, rest) := by
  have large : ¬ b < 0x80 := by
    rw [UInt8.lt_iff_toNat_lt]
    exact Nat.not_lt.mpr tail.1
  have none : lead? b = none := by
    rw [lead?, if_pos]
    rw [UInt8.lt_iff_toNat_lt]
    exact Nat.lt_of_le_of_lt tail.2 (by decide)
  simp [firstPiece, large, none]

/-- A text that stands among bytes is read as it is, whatever is in front of it and behind it. -/
theorem pieces_among {text : List Char} (filled : text ≠ []) (front rest : Bytes) :
    pieces (front ++ (encodeChars text ++ rest)) = pieces front ++ (text.map .char ++ pieces rest) := by
  obtain ⟨c, more, rfl⟩ := List.exists_cons_of_ne_nil filled
  obtain ⟨b, others, written, read⟩ := firstPiece_encode c []
  have first : ¬ IsTail b := by
    intro tail
    rw [firstPiece_tail tail] at read
    cases read
  have start : encodeChars (c :: more) ++ rest = b :: (others ++ (encodeChars more ++ rest)) := by
    rw [encodeChars_cons, written, List.append_assoc, List.cons_append]
  rw [← pieces_append, start, pieces_boundary first]

/-! ### What is found -/

theorem toList_decodeLossy (bytes : Bytes) : (decodeLossy bytes).toList = (pieces bytes).map Piece.toChar :=
  String.toList_ofList

theorem map_toChar_char (text : List Char) : (text.map Piece.char).map Piece.toChar = text := by
  rw [List.map_map]
  exact List.map_id text

/-- Broken parts do not hide a text. -/
theorem infix_decodeLossy {text : List Char} (filled : text ≠ []) {bytes : Bytes}
    (found : encodeChars text <:+: bytes) : text <:+: (decodeLossy bytes).toList := by
  obtain ⟨front, rest, rfl⟩ := found
  rw [toList_decodeLossy, List.append_assoc, pieces_among filled, List.map_append, List.map_append,
    map_toChar_char]
  exact ⟨_, _, List.append_assoc ..⟩

/-- Only U+FFFD can come from a broken part. -/
theorem eq_map_char {parts : List Piece} {text : List Char} (same : parts.map Piece.toChar = text)
    (whole : '\uFFFD' ∉ text) : parts = text.map .char := by
  subst same
  induction parts with
  | nil => rfl
  | cons part parts ih =>
    rw [List.map_cons, List.mem_cons, not_or] at whole
    cases part with
    | char c => exact congrArg (Piece.char c :: ·) (ih whole.2)
    | broken => exact absurd rfl whole.1

/-- Broken parts do not make up a text without U+FFFD. -/
theorem infix_of_decodeLossy {text : List Char} (whole : '\uFFFD' ∉ text) {bytes : Bytes}
    (found : text <:+: (decodeLossy bytes).toList) : encodeChars text <:+: bytes := by
  obtain ⟨front, rest, cut⟩ := found
  rw [toList_decodeLossy, List.append_assoc] at cut
  obtain ⟨early, late, read, -, behind⟩ := List.map_eq_append_iff.mp cut.symm
  obtain ⟨parts, others, rfl, same, -⟩ := List.map_eq_append_iff.mp behind
  obtain ⟨back, ⟨ahead, rfl⟩, written⟩ := pieces_behind read
  rw [eq_map_char same whole] at written
  obtain ⟨rest, rfl⟩ := pieces_chars written
  exact ⟨ahead, rest, List.append_assoc ..⟩

end PartyBridge.Utf8
