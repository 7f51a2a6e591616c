import PartyBridge.Json.Reader
import PartyBridge.Proofs.Text.Integer

/-!
# Reading JSON back

A string that was written is read back as it was, and so is an integer of 64 bits. Lemmas about readers say
what is read and what is left of the text: where that is, in lines and columns, matters only to faults.
-/

namespace PartyBridge.Json
open Text

/-- A reader gives something and leaves a rest of the text. -/
def Yields {α : Type} (result : Read α) (a : α) (rest : List Char) : Prop :=
  ∃ c, result = .ok (a, c) ∧ c.rest = rest

section Cursors
variable {c : Cursor} {ch : Char} {rest : List Char}

theorem next_rest (here : c.rest = ch :: rest) : c.next.rest = rest := by
  simp only [Cursor.next, here]
  split <;> rfl

theorem skipBlanks_solid (here : c.rest = ch :: rest) (solid : isJsonBlank ch = false) :
    c.skipBlanks = c := by
  rw [Cursor.skipBlanks, here, skipBlanksFrom, solid, ← here]
  rfl

end Cursors

/-! ### Strings -/

theorem hexValue?_hexDigit {n : Nat} (small : n < 16) : hexValue? (hexDigit n) = some n := by
  have digit : ∀ d : Fin 16, hexValue? (hexDigit d) = some d.val := by decide
  exact digit ⟨n, small⟩

theorem utf8Size_hexDigit {n : Nat} (small : n < 16) : (hexDigit n).utf8Size = 1 := by
  have digit : ∀ d : Fin 16, (hexDigit d).utf8Size = 1 := by decide
  exact digit ⟨n, small⟩

theorem readHex_control {n : Nat} (control : n < 0x20) {c : Cursor} {more : List Char}
    (here : c.rest = '0' :: '0' :: hexDigit (n / 16) :: hexDigit (n % 16) :: more) :
    readHex c = .ok (n, c.skip 4) := by
  have zero : '0'.utf8Size = 1 := by decide
  have high : n / 16 < 16 := by omega
  have low : n % 16 < 16 := by omega
  have size : hasBytes 4 ('0' :: '0' :: hexDigit (n / 16) :: hexDigit (n % 16) :: more) = true := by
    simp [hasBytes, zero, utf8Size_hexDigit high, utf8Size_hexDigit low]
  have digits : hexFour? '0' '0' (hexDigit (n / 16)) (hexDigit (n % 16)) = some n := by
    rw [hexFour?, hexValue?_hexDigit high, hexValue?_hexDigit low]
    simp [hexValue?]
    omega
  simp [readHex, size, here, digits]

theorem readHexEscape_control {n : Nat} (control : n < 0x20) {c : Cursor} {more : List Char}
    (here : c.rest = '0' :: '0' :: hexDigit (n / 16) :: hexDigit (n % 16) :: more) :
    Yields (readHexEscape c) (Char.ofNat n) more := by
  refine ⟨c.skip 4, ?_, by simp [Cursor.skip, here]⟩
  have notTrailing : ¬ (0xDC00 ≤ n ∧ n ≤ 0xDFFF) := by omega
  have notLeading : n < 0xD800 ∨ 0xDBFF < n := by omega
  simp [readHexEscape, readHex_control control here, bind, Except.bind, notTrailing, notLeading]

/-- The escape of a character, behind its backslash, is read back. -/
def EscapedBy (ch : Char) (esc : List Char) : Prop :=
  ∀ c more, c.rest = esc ++ more → Yields (readEscape c) ch more

theorem escapedBy_letter {ch l : Char}
    (known : ∀ c more, c.rest = l :: more → readEscape c = .ok (ch, c.next)) : EscapedBy ch [l] :=
  fun c more here => ⟨c.next, known c more here, next_rest here⟩

/-- A character is written as it is, or as an escape that is read back. -/
theorem escapeChar_cases (ch : Char) :
    escapeChar ch = [ch] ∧ ch ≠ '\x22' ∧ ch ≠ '\x5c' ∧ 0x20 ≤ ch.toNat ∨
    ∃ esc, escapeChar ch = '\x5c' :: esc ∧ EscapedBy ch esc := by
  have whole : Char.ofNat ch.toNat = ch := Char.ofNat_toNat ch
  unfold escapeChar
  split
  · next quoted =>
    refine .inr ⟨[ch], rfl, escapedBy_letter fun c more here => ?_⟩
    rcases quoted with rfl | rfl <;> simp [readEscape, here]
  · next unquoted =>
    rw [not_or] at unquoted
    split
    · next newline =>
      exact .inr ⟨['n'], rfl, escapedBy_letter fun c more here => by simp [readEscape, here, newline]⟩
    split
    · next returned =>
      exact .inr ⟨['r'], rfl, escapedBy_letter fun c more here => by simp [readEscape, here, returned]⟩
    split
    · next tab =>
      exact .inr ⟨['t'], rfl, escapedBy_letter fun c more here => by simp [readEscape, here, tab]⟩
    split
    · next backspace =>
      rw [backspace] at whole
      exact .inr ⟨['b'], rfl, escapedBy_letter fun c more here => by simpa [readEscape, here] using whole⟩
    split
    · next feed =>
      rw [feed] at whole
      exact .inr ⟨['f'], rfl, escapedBy_letter fun c more here => by simpa [readEscape, here] using whole⟩
    split
    · next control =>
      refine .inr ⟨_, rfl, fun c more here => ?_⟩
      have digits := readHexEscape_control control (next_rest here)
      rw [whole] at digits
      simpa [readEscape, here] using digits
    · next large => exact .inl ⟨rfl, unquoted.1, unquoted.2, Nat.le_of_not_lt large⟩

theorem readStringAfter_escaped (text : List Char) {more : List Char} {fuel : Nat} (done : List Char)
    {c : Cursor} (here : c.rest = text.flatMap escapeChar ++ '\x22' :: more)
    (enough : text.length < fuel) :
    Yields (readStringAfter fuel done c) (String.ofList (done.reverse ++ text)) more := by
  induction text generalizing fuel done c with
  | nil =>
    obtain ⟨fuel, rfl⟩ := Nat.exists_eq_add_one_of_ne_zero (Nat.ne_of_gt enough)
    have quote : c.rest = '\x22' :: more := here
    refine ⟨c.next, ?_, next_rest quote⟩
    simp [readStringAfter, quote]
  | cons ch text ih =>
    obtain ⟨fuel, rfl⟩ := Nat.exists_eq_add_one_of_ne_zero (Nat.ne_of_gt (Nat.zero_lt_of_lt enough))
    have enough : text.length < fuel := Nat.lt_of_succ_lt_succ enough
    rw [List.flatMap_cons, List.append_assoc] at here
    obtain ⟨plain, notQuote, notBackslash, large⟩ | ⟨esc, escaped, read⟩ := escapeChar_cases ch
    · rw [plain, List.singleton_append] at here
      have result := ih (ch :: done) (next_rest here) enough
      simpa [readStringAfter, here, notQuote, notBackslash, Nat.not_lt.mpr large] using result
    · rw [escaped, List.cons_append] at here
      obtain ⟨c', result, left⟩ := read c.next _ (next_rest here)
      have result' := ih (ch :: done) left enough
      simpa [readStringAfter, here, result] using result'

theorem length_le_flatMap_escapeChar (text : List Char) : text.length ≤ (text.flatMap escapeChar).length := by
  induction text with
  | nil => exact Nat.le_refl 0
  | cons ch text ih =>
    have wide : 1 ≤ (escapeChar ch).length := by
      obtain ⟨plain, -⟩ | ⟨esc, escaped, -⟩ := escapeChar_cases ch
      · simp [plain]
      · simp [escaped]
    rw [List.flatMap_cons, List.length_append, List.length_cons]
    omega

/-- A string is read back behind its opening quote. -/
theorem readString_stringText (s : String) {c : Cursor} {more : List Char}
    (here : '\x22' :: c.rest = stringText s ++ more) : Yields (readString c) s more := by
  have inner : c.rest = s.toList.flatMap escapeChar ++ '\x22' :: more := by
    simpa [stringText] using here
  -- escapes only make a text longer, so the fuel outlasts its characters
  have enough : s.toList.length < c.rest.length + 1 := by
    have := length_le_flatMap_escapeChar s.toList
    rw [inner, List.length_append, List.length_cons]
    omega
  simpa [readString] using readStringAfter_escaped s.toList [] inner enough

/-! ### Members -/

theorem stringText_cons (s : String) (more : List Char) :
    ∃ rest, stringText s ++ more = '\x22' :: rest :=
  ⟨s.toList.flatMap escapeChar ++ ['\x22'] ++ more, rfl⟩

section Members
variable {c : Cursor} {more : List Char}

theorem readColon_colon (here : c.rest = ':' :: more) :
    ∃ c', readColon c = .ok c' ∧ c'.rest = more := by
  refine ⟨c.next, ?_, next_rest here⟩
  simp [readColon, skipBlanks_solid here (by decide), here]

theorem readKey_stringText (s : String) (here : c.rest = stringText s ++ more) :
    Yields (readKey c) s more := by
  obtain ⟨rest, quoted⟩ := stringText_cons s more
  rw [quoted] at here
  have inner : '\x22' :: c.next.rest = stringText s ++ more := by rw [next_rest here, quoted]
  simpa [readKey, here] using readString_stringText s inner

theorem nextKey_first (s : String) (here : c.rest = stringText s ++ more) :
    Yields (nextKey true c) (some s) more := by
  obtain ⟨c', result, left⟩ := readKey_stringText s here
  obtain ⟨rest, quoted⟩ := stringText_cons s more
  rw [quoted] at here
  refine ⟨c', ?_, left⟩
  simp [nextKey, skipBlanks_solid here (by decide), here, result, Except.map]

theorem nextKey_comma (s : String) (here : c.rest = ',' :: (stringText s ++ more)) :
    Yields (nextKey false c) (some s) more := by
  obtain ⟨c', result, left⟩ := readKey_stringText s (next_rest here)
  obtain ⟨rest, quoted⟩ := stringText_cons s more
  have solid := skipBlanks_solid ((next_rest here).trans quoted) (by decide)
  refine ⟨c', ?_, left⟩
  simp [nextKey, skipBlanks_solid here (by decide), here, solid, result, Except.map]

theorem nextKey_brace (first : Bool) (here : c.rest = '\x7d' :: more) :
    nextKey first c = .ok (none, c) := by
  simp [nextKey, skipBlanks_solid here (by decide), here]

end Members

/-! ### Integers -/

theorem absorbDigits_append {beyond : IntegerFault} {digits : List Char} {start n : Nat} (taken : Nat)
    (more : List Char) (read : readMagnitude natLimit beyond start digits = .ok n) :
    absorbDigits (digits ++ more) start taken = absorbDigits more n (taken + digits.length) := by
  induction digits generalizing start taken with
  | nil =>
    cases read
    rfl
  | cons ch digits ih =>
    rw [readMagnitude] at read
    cases digit : digit? ch with
    | none => simp [digit] at read
    | some d =>
      simp only [digit] at read
      split at read
      · cases read
      · next within =>
        rw [List.cons_append, absorbDigits, digit]
        simp only [if_neg within]
        rw [ih (taken + 1) read, List.length_cons, Nat.add_right_comm, Nat.add_assoc]

/-- What may follow an integer that is nothing but an integer. -/
def Ends (more : List Char) : Prop :=
  ∀ ch ∈ more.head?, digit? ch = none ∧ ch ≠ '.' ∧ ch ≠ 'e' ∧ ch ≠ 'E'

theorem absorbDigits_ends {more : List Char} (ends : Ends more) (n taken : Nat) :
    absorbDigits more n taken = (n, taken, more) := by
  cases more with
  | nil => rfl
  | cons ch more => simp [absorbDigits, (ends ch rfl).1]

section Ends
variable {c : Cursor} (ends : Ends c.rest)
include ends

theorem atDigit_ends : c.atDigit = false := by
  cases here : c.rest with
  | nil => simp [Cursor.atDigit, here]
  | cons ch more => simp [Cursor.atDigit, here, (ends ch (by simp [here])).1]

theorem readNumberTail_ends (negative : Bool) (n : Nat) :
    readNumberTail negative n c = .ok (integerValue negative n, c) := by
  cases here : c.rest with
  | nil => simp [readNumberTail, Cursor.atExponent, here]
  | cons ch more =>
    obtain ⟨-, point, lower, upper⟩ := ends ch (by simp [here])
    simp [readNumberTail, Cursor.atExponent, here, point, lower, upper]

end Ends

/-- A positive number starts with a digit that is not zero, and the other digits are read on from it. -/
theorem natDigits_leading {n : Nat} (positive : 0 < n) (fits : n ≤ natLimit) :
    ∃ d rest, natDigits n = digitChar d :: rest ∧ digit? (digitChar d) = some d ∧ digitChar d ≠ '0' ∧
      readMagnitude natLimit .tooLarge d rest = .ok n := by
  obtain ⟨d, rest, digits, nonzero, small⟩ := natDigits_cons positive
  have digit : digit? (digitChar d) = some d := by rw [digit?_digitChar, Nat.mod_eq_of_lt small]
  refine ⟨d, rest, digits, digit, ?_, ?_⟩
  · intro zero
    rw [zero] at digit
    exact Nat.ne_of_gt nonzero (Option.some.inj digit).symm
  · have whole := readMagnitude_natDigits .tooLarge fits
    have within : ¬ natLimit < d := by
      rw [natLimit, greatestUInt64]
      omega
    rw [digits, readMagnitude, digit] at whole
    simpa [within] using whole

theorem readNumber_natDigits {n : Nat} (fits : n ≤ natLimit) (negative : Bool) {c : Cursor} {more : List Char}
    (here : c.rest = natDigits n ++ more) (ends : Ends more) :
    Yields (readNumber negative c) (integerValue negative n) more := by
  cases n with
  | zero =>
    have first : c.rest = '0' :: more := by
      rw [here, natDigits]
      rfl
    have left := next_rest first
    refine ⟨c.next, ?_, left⟩
    rw [← left] at ends
    simp [readNumber, first, atDigit_ends ends, readNumberTail_ends ends]
  | succ n =>
    obtain ⟨d, rest, digits, digit, notZero, read⟩ := natDigits_leading (Nat.succ_pos n) fits
    have first : c.rest = digitChar d :: (rest ++ more) := by rw [here, digits, List.cons_append]
    have absorbed : absorbDigits (rest ++ more) d 0 = (n + 1, rest.length, more) := by
      rw [absorbDigits_append 0 more read, Nat.zero_add, absorbDigits_ends ends]
    have left : (c.next.skip rest.length).rest = more := by
      rw [Cursor.skip, next_rest first, List.drop_left]
    refine ⟨c.next.skip rest.length, ?_, left⟩
    rw [← left] at ends
    simp [readNumber, first, digit, next_rest first, absorbed, atDigit_ends ends,
      readNumberTail_ends ends]

theorem integerValue_negative {n : Nat} (positive : 0 < n) (fits : n ≤ greatestInt64.toNat + 1) :
    integerValue true n = .int (-Int.ofNat n) := by
  have inside : ¬ (n = 0 ∨ greatestInt64.toNat + 1 < n) := by omega
  simp [integerValue, inside]

/-- An integer of 64 bits, with or without sign, is read back. -/
theorem readValueWith_int {n : Int} (least : leastInt64 ≤ n) (most : n ≤ greatestUInt64) (fuel depth : Nat)
    {c : Cursor} {more : List Char} (here : c.rest = (decimal n).toList ++ more) (ends : Ends more) :
    Yields (readValueWith (fuel + 1) depth c) (.int n) more := by
  cases n with
  | ofNat n =>
    have fits : n ≤ natLimit := Int.ofNat_le.mp most
    have digits : c.rest = natDigits n ++ more := by rw [here, Int.ofNat_eq_natCast, toList_decimal_ofNat]
    have result := readNumber_natDigits fits false digits ends
    obtain ⟨ch, rest, first⟩ := List.exists_cons_of_ne_nil (natDigits_ne_nil n)
    have digit : (digit? ch).isSome := digit?_of_mem_natDigits (n := n) (by simp [first])
    have other : ∀ l, digit? l = none → ch ≠ l := by
      rintro l none rfl
      simp [none] at digit
    have solid : isJsonBlank ch = false := by
      simp [isJsonBlank, other ' ' rfl, other '\n' rfl, other '\t' rfl, other '\r' rfl]
    rw [first, List.cons_append] at digits
    simpa [readValueWith, skipBlanks_solid digits solid, digits, other 'n' rfl, other 't' rfl, other 'f' rfl,
      other '-' rfl, digit, integerValue] using result
  | negSucc n =>
    have fits : n + 1 ≤ greatestInt64.toNat + 1 := by
      simp only [leastInt64, greatestInt64] at least ⊢
      omega
    have within : n + 1 ≤ natLimit := Nat.le_trans fits (by decide)
    rw [toList_decimal_negSucc, List.cons_append] at here
    have result := readNumber_natDigits within true (next_rest here) ends
    rw [integerValue_negative (Nat.succ_pos n) fits] at result
    change Yields _ (Value.int (.negSucc n)) more at result
    simpa [readValueWith, skipBlanks_solid here (by decide), here] using result

end PartyBridge.Json
