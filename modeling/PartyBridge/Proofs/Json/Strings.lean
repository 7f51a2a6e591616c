import PartyBridge.Proofs.Json.Reader

/-!
# How far a string reaches

A string is read up to its closing quote, and what stands behind the quote does not matter to it. A scan that
drops the blanks of a text drops none of a string's (`tight`), so it leaves the string as it was.
-/

namespace PartyBridge.Json

/-- Where in a text a scan is: outside of its strings, inside of one, or behind a backslash in one. -/
inductive Place where
  | outside
  | inside
  | escaped

/-- The text without the blanks outside of its strings. -/
def tight : Place → List Char → List Char
  | _, [] => []
  | .outside, ch :: rest =>
    if isJsonBlank ch then tight .outside rest
    else ch :: tight (if ch = '\x22' then .inside else .outside) rest
  | .inside, ch :: rest =>
    ch :: tight (if ch = '\x22' then .outside else if ch = '\x5c' then .escaped else .inside) rest
  | .escaped, ch :: rest => ch :: tight .inside rest

/-! ### Escapes -/

def FourDigits (digits : List Char) (n : Nat) : Prop :=
  ∃ a b c d, digits = [a, b, c, d] ∧ hexFour? a b c d = some n

theorem hexDigit_plain {ch : Char} {n : Nat} (digit : hexValue? ch = some n) : ch ≠ '\x22' ∧ ch ≠ '\x5c' := by
  constructor
  · rintro rfl
    simp [hexValue?] at digit
  · rintro rfl
    simp [hexValue?] at digit

theorem hasBytes_of_length {n : Nat} {text : List Char} (long : n ≤ text.length) : hasBytes n text = true := by
  induction text generalizing n with
  | nil =>
    obtain rfl := Nat.le_zero.mp long
    rw [hasBytes]
  | cons ch text ih =>
    cases n with
    | zero => rw [hasBytes]
    | succ n =>
      rw [hasBytes]
      have size := ch.utf8Size_pos
      rw [List.length_cons] at long
      exact ih (by omega)

section Hex
variable {c c' : Cursor} {n : Nat} {digits : List Char}

theorem fourDigits_of_readHex (read : readHex c = .ok (n, c')) :
    ∃ digits, c.rest = digits ++ c'.rest ∧ FourDigits digits n := by
  unfold readHex at read
  split at read
  · split at read
    · next a b x y rest here =>
      split at read
      · next value =>
        cases read
        exact ⟨[a, b, x, y], by rw [Cursor.skip, here]; rfl, a, b, x, y, rfl, value⟩
      · cases read
    · cases read
  · cases read

theorem FourDigits.readHex (four : FourDigits digits n) {more : List Char} (here : c.rest = digits ++ more) :
    Yields (readHex c) n more := by
  obtain ⟨a, b, x, y, rfl, value⟩ := four
  have long : hasBytes 4 c.rest = true := hasBytes_of_length (by rw [here]; simp)
  refine ⟨c.skip 4, ?_, by rw [Cursor.skip, here]; rfl⟩
  rw [Json.readHex, if_pos long, here]
  simp [value]

theorem FourDigits.tight (four : FourDigits digits n) (more : List Char) :
    tight .inside (digits ++ more) = digits ++ tight .inside more := by
  obtain ⟨a, b, x, y, rfl, value⟩ := four
  unfold hexFour? at value
  simp only [Option.bind_eq_bind, Option.bind_eq_some_iff] at value
  obtain ⟨_, first, _, second, _, third, _, fourth, -⟩ := value
  simp [Json.tight, hexDigit_plain first, hexDigit_plain second, hexDigit_plain third, hexDigit_plain fourth]

end Hex

theorem bind_eq_ok {α β : Type} {result : Except Fault α} {f : α → Except Fault β} {b : β}
    (bound : result >>= f = .ok b) : ∃ a, result = .ok a ∧ f a = .ok b := by
  cases result with
  | error fault => cases bound
  | ok a => exact ⟨a, rfl, bound⟩

section Escapes
variable {c c' : Cursor} {ch : Char}

theorem expectInEscape_eq_ok (read : expectInEscape ch c = .ok c') : c.rest = ch :: c'.rest := by
  unfold expectInEscape at read
  split at read
  · cases read
  · next first rest here =>
    split at read
    · next same =>
      cases read
      rw [here, next_rest here, same]
    · cases read

theorem expectInEscape_ok {rest : List Char} (here : c.rest = ch :: rest) :
    expectInEscape ch c = .ok c.next := by
  simp [expectInEscape, here]

/-- A text that is read as a character, whatever follows it, and is left as it was by a scan that starts at `place`
and ends inside of the string. -/
structure Extent (read : Cursor → Read Char) (place : Place) (ch : Char) (text : List Char) : Prop where
  read : ∀ {d more}, d.rest = text ++ more → Yields (read d) ch more
  kept : ∀ more, tight place (text ++ more) = text ++ tight .inside more

theorem readHexEscape_extent (read : readHexEscape c = .ok (ch, c')) :
    ∃ text, c.rest = text ++ c'.rest ∧ Extent readHexEscape .inside ch text := by
  unfold readHexEscape at read
  obtain ⟨⟨n, behind⟩, first, read⟩ := bind_eq_ok read
  obtain ⟨digits, here, four⟩ := fourDigits_of_readHex first
  dsimp only at read
  split at read
  · cases read
  · next notTrailing =>
    split at read
    · next plain =>
      cases read
      refine ⟨digits, here, fun {d more} there => ?_, four.tight⟩
      obtain ⟨d', again, left⟩ := four.readHex there
      refine ⟨d', ?_, left⟩
      simp [readHexEscape, again, bind, Except.bind, notTrailing, plain]
    · next leading =>
      obtain ⟨slash, backslash, read⟩ := bind_eq_ok read
      obtain ⟨letter, u, read⟩ := bind_eq_ok read
      obtain ⟨⟨m, last⟩, second, read⟩ := bind_eq_ok read
      obtain ⟨low, there, others⟩ := fourDigits_of_readHex second
      dsimp only at read
      split at read
      · cases read
      · next trailing =>
        obtain ⟨rfl, rfl⟩ := Prod.mk.inj (Except.ok.inj read)
        rw [expectInEscape_eq_ok backslash, expectInEscape_eq_ok u, there] at here
        refine ⟨digits ++ '\x5c' :: 'u' :: low, by simpa using here, fun {d more} there => ?_, fun more => ?_⟩
        · rw [List.append_assoc, List.cons_append, List.cons_append] at there
          obtain ⟨d₁, again, there⟩ := four.readHex there
          have letter := next_rest there
          obtain ⟨d₂, last, left⟩ := others.readHex (next_rest letter)
          refine ⟨d₂, ?_, left⟩
          simp [readHexEscape, again, bind, Except.bind, notTrailing, leading, expectInEscape_ok there,
            expectInEscape_ok letter, last, trailing]
        · rw [List.append_assoc, List.cons_append, List.cons_append, four.tight]
          simp [tight, others.tight]

theorem readEscape_extent (read : readEscape c = .ok (ch, c')) :
    ∃ l text, c.rest = l :: text ++ c'.rest ∧ Extent readEscape .escaped ch (l :: text) := by
  unfold readEscape at read
  split at read
  · cases read
  · next l rest here =>
    have letter : ∀ {value}, (∀ d more, d.rest = l :: more → readEscape d = .ok (value, d.next)) →
        (.ok (value, c.next) : Read Char) = .ok (ch, c') →
        ∃ l text, c.rest = l :: text ++ c'.rest ∧ Extent readEscape .escaped ch (l :: text) := by
      rintro value known ⟨⟩
      refine ⟨l, [], by rw [here, next_rest here]; rfl, fun {d more} there => ?_, fun more => rfl⟩
      exact escapedBy_letter known d more there
    iterate 6
      split at read
      · next is => exact letter (fun d more there => by simp [readEscape, there, is]) read
    split at read
    · next is =>
      subst is
      obtain ⟨digits, taken, extent⟩ := readHexEscape_extent read
      rw [next_rest here] at taken
      refine ⟨'u', digits, by rw [here, taken]; rfl, fun {d more} there => ?_, fun more => ?_⟩
      · have again := extent.read (next_rest there)
        simpa [readEscape, there] using again
      · exact congrArg (List.cons 'u') (extent.kept more)
    · cases read

end Escapes

/-! ### Strings -/

section Strings
variable {c c' : Cursor} {s : String}

/-- What is read of a string is taken off the text. It is read again, whatever follows it, and a scan leaves it
as it was. -/
theorem readStringAfter_extent {fuel : Nat} {done : List Char}
    (read : readStringAfter fuel done c = .ok (s, c')) :
    ∃ taken, c.rest = taken ++ c'.rest ∧ taken ≠ [] ∧
      (∀ {d more fuel}, d.rest = taken ++ more → taken.length ≤ fuel →
        Yields (readStringAfter fuel done d) s more) ∧
      ∀ more, tight .inside (taken ++ more) = taken ++ tight .outside more := by
  induction fuel generalizing done c with
  | zero => cases read
  | succ fuel ih =>
    rw [readStringAfter] at read
    split at read
    · cases read
    · next ch rest here =>
      split at read
      · next quote =>
        cases read
        refine ⟨[ch], by rw [here, next_rest here]; rfl, by simp, fun {d more fuel} there enough => ?_,
          fun more => ?_⟩
        · obtain ⟨fuel, rfl⟩ := Nat.exists_eq_add_one_of_ne_zero (Nat.ne_of_gt enough)
          exact ⟨d.next, by simp [readStringAfter, there, quote], next_rest there⟩
        · simp [tight, quote]
      · next notQuote =>
        split at read
        · next backslash =>
          split at read
          · cases read
          · next e behind escape =>
            obtain ⟨l, text, within, extent⟩ := readEscape_extent escape
            obtain ⟨taken, left, -, again, kept⟩ := ih read
            rw [next_rest here, left] at within
            refine ⟨ch :: (l :: text ++ taken), by rw [here, within]; simp, by simp,
              fun {d more fuel} there enough => ?_, fun more => ?_⟩
            · obtain ⟨fuel, rfl⟩ := Nat.exists_eq_add_one_of_ne_zero (Nat.ne_of_gt (Nat.zero_lt_of_lt enough))
              have escaped : d.next.rest = l :: text ++ (taken ++ more) := by simpa using next_rest there
              obtain ⟨d', once, there'⟩ := extent.read escaped
              have enough : taken.length ≤ fuel := by
                simp only [List.length_cons, List.length_append] at enough
                omega
              have rest := again there' enough
              simpa [readStringAfter, there, backslash, once] using rest
            · have rest := extent.kept (taken ++ more)
              rw [kept] at rest
              simpa [tight, backslash] using rest
        · next notBackslash =>
          split at read
          · cases read
          · next large =>
            obtain ⟨taken, left, -, again, kept⟩ := ih read
            rw [next_rest here] at left
            refine ⟨ch :: taken, by rw [here, left]; rfl, by simp, fun {d more fuel} there enough => ?_,
              fun more => ?_⟩
            · obtain ⟨fuel, rfl⟩ := Nat.exists_eq_add_one_of_ne_zero (Nat.ne_of_gt (Nat.zero_lt_of_lt enough))
              have rest := again (next_rest there) (Nat.le_of_succ_le_succ enough)
              simpa [readStringAfter, there, notQuote, notBackslash, large] using rest
            · simp [tight, notQuote, notBackslash, kept]

theorem readString_extent (read : readString c = .ok (s, c')) :
    ∃ taken, c.rest = taken ++ c'.rest ∧ taken ≠ [] ∧
      (∀ {d more}, d.rest = taken ++ more → Yields (readString d) s more) ∧
      ∀ more, tight .inside (taken ++ more) = taken ++ tight .outside more := by
  obtain ⟨taken, here, filled, again, kept⟩ := readStringAfter_extent read
  refine ⟨taken, here, filled, fun {d more} there => again there ?_, kept⟩
  rw [there, List.length_append]
  omega

end Strings

end PartyBridge.Json
