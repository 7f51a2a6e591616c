import PartyBridge.Text.Utf8

/-!
# Reading UTF-8 back

What is written as UTF-8 is read back as it was, with nothing broken in it, whatever follows
(`pieces_append`). A newline in it is a newline of the text.
-/

namespace PartyBridge.Utf8

section Lead
variable {b : UInt8}

theorem lead?_two (least : 0xC2 ≤ b.toNat) (most : b.toNat ≤ 0xDF) :
    lead? b = some ⟨1, b.toNat - 0xC0, 0x80, 0xBF⟩ := by
  simp only [lead?, UInt8.lt_iff_toNat_lt, UInt8.le_iff_toNat_le, UInt8.reduceToNat]
  rw [if_neg (by omega), if_pos (by omega)]

/-- Of the second bytes behind E0 and ED, some would make a character that is too long or a surrogate. -/
theorem lead?_three (least : 0xE0 ≤ b.toNat) (most : b.toNat ≤ 0xEF) :
    lead? b = some ⟨2, b.toNat - 0xE0, if b.toNat = 0xE0 then 0xA0 else 0x80,
      if b.toNat = 0xED then 0x9F else 0xBF⟩ := by
  simp only [lead?, UInt8.lt_iff_toNat_lt, UInt8.le_iff_toNat_le, ← UInt8.toNat_inj, UInt8.reduceToNat]
  rw [if_neg (by omega), if_neg (by omega)]
  split
  · simp [*]
  · split
    · simp [*]
    · rfl

theorem lead?_four (least : 0xF0 ≤ b.toNat) (most : b.toNat ≤ 0xF4) :
    lead? b = some ⟨3, b.toNat - 0xF0, if b.toNat = 0xF0 then 0x90 else 0x80,
      if b.toNat = 0xF4 then 0x8F else 0xBF⟩ := by
  simp only [lead?, UInt8.lt_iff_toNat_lt, UInt8.le_iff_toNat_le, ← UInt8.toNat_inj, UInt8.reduceToNat]
  rw [if_neg (by omega), if_neg (by omega), if_neg (by omega), if_neg (by omega), if_neg (by omega)]
  split
  · simp [*]
  · split
    · rw [if_neg (by omega)]
    · rw [if_pos (by omega), if_pos (by omega)]
      simp
      omega

end Lead

def IsTail (b : UInt8) : Prop :=
  0x80 ≤ b.toNat ∧ b.toNat ≤ 0xBF

theorem continuation_tail {b : UInt8} (tail : IsTail b) (n bits : Nat) (rest : Bytes) :
    continuation (n + 1) bits (b :: rest) = continuation n (bits * 64 + (b.toNat - 0x80)) rest := by
  have inside : 0x80 ≤ b ∧ b ≤ 0xBF := by simpa [UInt8.le_iff_toNat_le] using tail.imp id id
  rw [continuation, if_pos inside]

theorem firstPiece_lead {b c low high : UInt8} {n bits : Nat} (lead : lead? b = some ⟨n + 1, bits, low, high⟩)
    (large : 0x80 ≤ b.toNat) (above : low.toNat ≤ c.toNat) (below : c.toNat ≤ high.toNat) (rest : Bytes) :
    firstPiece b (c :: rest) = continuation n (bits * 64 + (c.toNat - 0x80)) rest := by
  have first : ¬ b < 0x80 := by simpa [UInt8.lt_iff_toNat_lt] using large
  have second : low ≤ c ∧ c ≤ high := by simpa [UInt8.le_iff_toNat_le] using ⟨above, below⟩
  simp only [firstPiece, lead, if_neg first, if_pos second, Nat.add_sub_cancel]

/-! ### One character -/

section Character
variable {v : Nat}

theorem firstPiece_one (most : v ≤ 0x7F) (rest : Bytes) :
    firstPiece (UInt8.ofNat v) rest = (.char (Char.ofNat v), rest) := by
  have byte : (UInt8.ofNat v).toNat = v := by
    rw [UInt8.toNat_ofNat']
    omega
  have single : UInt8.ofNat v < 0x80 := by
    rw [UInt8.lt_iff_toNat_lt, byte]
    exact Nat.lt_succ_of_le most
  simp only [firstPiece, if_pos single, byte]

theorem isTail_ofNat (n : Nat) : IsTail (UInt8.ofNat (n % 64 + 128)) := by
  rw [IsTail, UInt8.toNat_ofNat']
  omega

theorem toNat_tail (n : Nat) : (UInt8.ofNat (n % 64 + 128)).toNat = n % 64 + 128 := by
  rw [UInt8.toNat_ofNat']
  omega

theorem firstPiece_two (least : 0x7F < v) (most : v ≤ 0x7FF) (rest : Bytes) :
    firstPiece (UInt8.ofNat (v / 64 % 32 + 192)) (UInt8.ofNat (v % 64 + 128) :: rest) =
      (.char (Char.ofNat v), rest) := by
  have first : (UInt8.ofNat (v / 64 % 32 + 192)).toNat = v / 64 + 192 := by
    rw [UInt8.toNat_ofNat']
    omega
  have bits : (v / 64 + 192 - 0xC0) * 64 + (v % 64 + 128 - 0x80) = v := by omega
  have second := isTail_ofNat v
  rw [firstPiece_lead (lead?_two (by omega) (by omega)) (by omega) second.1 second.2, continuation,
    toNat_tail, first, bits]

theorem firstPiece_three (least : 0x7FF < v) (most : v ≤ 0xFFFF) (valid : v < 0xD800 ∨ 0xDFFF < v)
    (rest : Bytes) :
    firstPiece (UInt8.ofNat (v / 4096 % 16 + 224))
        (UInt8.ofNat (v / 64 % 64 + 128) :: UInt8.ofNat (v % 64 + 128) :: rest) =
      (.char (Char.ofNat v), rest) := by
  have first : (UInt8.ofNat (v / 4096 % 16 + 224)).toNat = v / 4096 + 224 := by
    rw [UInt8.toNat_ofNat']
    omega
  have bits : ((v / 4096 + 224 - 0xE0) * 64 + (v / 64 % 64 + 128 - 0x80)) * 64 + (v % 64 + 128 - 0x80) =
      v := by omega
  rw [firstPiece_lead (lead?_three (by omega) (by omega)) (by omega), continuation_tail (isTail_ofNat v),
    continuation, toNat_tail, toNat_tail, first, bits]
  · rw [toNat_tail, first]
    split <;> simp
    all_goals omega
  · rw [toNat_tail, first]
    split <;> simp
    all_goals omega

theorem firstPiece_four (least : 0xFFFF < v) (most : v < 0x110000) (rest : Bytes) :
    firstPiece (UInt8.ofNat (v / 262144 % 8 + 240))
        (UInt8.ofNat (v / 4096 % 64 + 128) :: UInt8.ofNat (v / 64 % 64 + 128) ::
          UInt8.ofNat (v % 64 + 128) :: rest) =
      (.char (Char.ofNat v), rest) := by
  have first : (UInt8.ofNat (v / 262144 % 8 + 240)).toNat = v / 262144 + 240 := by
    rw [UInt8.toNat_ofNat']
    omega
  have bits : (((v / 262144 + 240 - 0xF0) * 64 + (v / 4096 % 64 + 128 - 0x80)) * 64 +
      (v / 64 % 64 + 128 - 0x80)) * 64 + (v % 64 + 128 - 0x80) = v := by omega
  rw [firstPiece_lead (lead?_four (by omega) (by omega)) (by omega), continuation_tail (isTail_ofNat _),
    continuation_tail (isTail_ofNat _), continuation, toNat_tail, toNat_tail, toNat_tail, first, bits]
  · rw [toNat_tail, first]
    split <;> simp
    all_goals omega
  · rw [toNat_tail, first]
    split <;> simp
    all_goals omega

end Character

/-- The first piece of what is written for a character is that character. -/
theorem firstPiece_encode (c : Char) (rest : Bytes) :
    ∃ b more, String.utf8EncodeChar c = b :: more ∧ firstPiece b (more ++ rest) = (.char c, rest) := by
  have valid : c.val.toNat < 0xD800 ∨ 0xDFFF < c.val.toNat ∧ c.val.toNat < 0x110000 := c.valid
  have whole : Char.ofNat c.val.toNat = c := Char.ofNat_toNat c
  unfold String.utf8EncodeChar
  dsimp only
  generalize c.val.toNat = v at *
  subst whole
  split
  · exact ⟨_, _, rfl, firstPiece_one (by omega) rest⟩
  · split
    · exact ⟨_, _, rfl, firstPiece_two (by omega) (by omega) rest⟩
    · split
      · exact ⟨_, _, rfl, firstPiece_three (by omega) (by omega) (by omega) rest⟩
      · exact ⟨_, _, rfl, firstPiece_four (by omega) (by omega) rest⟩

/-! ### Texts -/

theorem piecesAfter_eq (done : List Piece) (bytes : Bytes) :
    piecesAfter done bytes = done.reverse ++ pieces bytes := by
  induction size : bytes.length using Nat.strongRecOn generalizing done bytes with
  | ind n ih =>
    cases bytes with
    | nil => simp [pieces, piecesAfter]
    | cons b rest =>
      have shorter : (firstPiece b rest).2.length < n := by
        rw [← size]
        exact Nat.lt_succ_of_le (length_firstPiece b rest)
      rw [pieces, piecesAfter, piecesAfter, ih _ shorter _ _ rfl, ih _ shorter _ _ rfl]
      simp

theorem pieces_cons (b : UInt8) (rest : Bytes) :
    pieces (b :: rest) = (firstPiece b rest).1 :: pieces (firstPiece b rest).2 := by
  rw [pieces, piecesAfter, piecesAfter_eq]
  rfl

theorem encodeChars_cons (c : Char) (text : List Char) :
    encodeChars (c :: text) = String.utf8EncodeChar c ++ encodeChars text :=
  List.flatMap_cons

theorem encode_ne_nil {text : String} (some : text ≠ "") : encode text ≠ [] := by
  cases chars : text.toList with
  | nil => exact absurd (String.toList_eq_nil_iff.mp chars) some
  | cons c rest =>
    obtain ⟨b, more, written, -⟩ := firstPiece_encode c []
    simp [encode, chars, encodeChars_cons, written]

theorem encodeChars_append (first second : List Char) :
    encodeChars (first ++ second) = encodeChars first ++ encodeChars second :=
  List.flatMap_append

/-- What is written for a text is read as its characters, whatever follows. -/
theorem pieces_append (text : List Char) (rest : Bytes) :
    pieces (encodeChars text ++ rest) = text.map .char ++ pieces rest := by
  induction text with
  | nil => rfl
  | cons c text ih =>
    obtain ⟨b, more, written, read⟩ := firstPiece_encode c (encodeChars text ++ rest)
    rw [encodeChars_cons, written, List.append_assoc, List.cons_append, pieces_cons, read, ih]
    rfl

theorem pieces_encodeChars (text : List Char) : pieces (encodeChars text) = text.map .char := by
  simpa [pieces, piecesAfter] using pieces_append text []

theorem decodeLossy_encodeChars (text : List Char) : decodeLossy (encodeChars text) = String.ofList text := by
  rw [decodeLossy, pieces_encodeChars, List.map_map]
  exact congrArg String.ofList (List.map_id text)

theorem decode?_encode (text : String) : decode? (encode text) = some text := by
  have whole : (text.toList.map Piece.char).map Piece.toChar = text.toList := by
    rw [List.map_map]
    exact List.map_id _
  simp [decode?, encode, pieces_encodeChars, Piece.char?, whole]

/-- A byte below 0x80 is written for the character that it stands for, and for no other. -/
theorem ascii_mem_utf8EncodeChar {a c : Char} (ascii : a.toNat < 0x80) :
    UInt8.ofNat a.toNat ∈ String.utf8EncodeChar c ↔ c = a := by
  have byte : (UInt8.ofNat a.toNat).toNat = a.toNat := by
    rw [UInt8.toNat_ofNat']
    omega
  constructor
  · intro member
    have whole : Char.ofNat c.val.toNat = c := Char.ofNat_toNat c
    unfold String.utf8EncodeChar at member
    dsimp only at member
    generalize c.val.toNat = v at *
    have same : v = a.toNat := by
      -- every byte of a longer form is above 0x7F
      repeat' split at member
      all_goals
        simp only [List.mem_cons, List.not_mem_nil, or_false, ← UInt8.toNat_inj, byte, UInt8.toNat_ofNat'] at member
        omega
    rw [← whole, same, Char.ofNat_toNat]
  · rintro rfl
    have short : c.toNat ≤ 0x7F := Nat.le_of_lt_succ ascii
    simp [String.utf8EncodeChar, short]

theorem ascii_mem_encodeChars {a : Char} (ascii : a.toNat < 0x80) {text : List Char} :
    UInt8.ofNat a.toNat ∈ encodeChars text ↔ a ∈ text := by
  simp [encodeChars, ascii_mem_utf8EncodeChar ascii]

theorem newline_mem_utf8EncodeChar {c : Char} : 10 ∈ String.utf8EncodeChar c ↔ c = '\n' :=
  ascii_mem_utf8EncodeChar (a := '\n') (by decide)

theorem newline_mem_encodeChars {text : List Char} : 10 ∈ encodeChars text ↔ '\n' ∈ text :=
  ascii_mem_encodeChars (a := '\n') (by decide)

end PartyBridge.Utf8
