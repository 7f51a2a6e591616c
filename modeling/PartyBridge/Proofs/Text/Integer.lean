import PartyBridge.Text.Blank
import PartyBridge.Text.Integer

/-!
# Reading decimal integers back

An integer written in decimal is read back as it was if it is in the range that is asked for. Its text is a
word of digits behind an optional minus sign, and starts with a zero only if it is zero.
-/

namespace PartyBridge.Text

theorem digit?_digitChar (n : Nat) : digit? (digitChar n) = some (n % 10) := by
  have digit : ∀ d : Fin 10, digit? (Char.ofNat (48 + d)) = some d.val := by decide
  exact digit ⟨n % 10, Nat.mod_lt n (by decide)⟩

theorem readMagnitude_append (limit : Nat) (beyond : IntegerFault) (n : Nat) (first second : List Char) :
    readMagnitude limit beyond n (first ++ second) =
      (readMagnitude limit beyond n first).bind fun n => readMagnitude limit beyond n second := by
  induction first generalizing n with
  | nil => rfl
  | cons c first ih =>
    simp only [List.cons_append, readMagnitude]
    split
    · rfl
    · split
      · rfl
      · exact ih _

/-- A number within the limit is read back. -/
theorem readMagnitude_natDigits {limit : Nat} (beyond : IntegerFault) {n : Nat} (within : n ≤ limit) :
    readMagnitude limit beyond 0 (natDigits n) = .ok n := by
  fun_induction natDigits n with
  | case1 n small =>
    rw [readMagnitude, digit?_digitChar, Nat.mod_eq_of_lt small]
    simp [readMagnitude, Nat.not_lt.mpr within]
  | case2 n large ih =>
    have whole : n / 10 * 10 + n % 10 = n := Nat.div_add_mod' n 10
    rw [readMagnitude_append, ih (by omega), Except.bind, readMagnitude, digit?_digitChar]
    simp [readMagnitude, whole, Nat.not_lt.mpr within]

/-- A number starts with a digit that is not zero, unless it is zero itself. -/
theorem natDigits_cons {n : Nat} (positive : 0 < n) :
    ∃ d rest, natDigits n = digitChar d :: rest ∧ 0 < d ∧ d < 10 := by
  fun_induction natDigits n with
  | case1 n small => exact ⟨n, [], rfl, positive, small⟩
  | case2 n large ih =>
    obtain ⟨d, rest, digits, bounds⟩ := ih (by omega)
    exact ⟨d, rest ++ [digitChar n], by rw [digits]; rfl, bounds⟩

theorem digit?_of_mem_natDigits {n : Nat} {c : Char} (member : c ∈ natDigits n) : (digit? c).isSome := by
  fun_induction natDigits n with
  | case1 n small =>
    rw [List.mem_singleton.mp member, digit?_digitChar]
    rfl
  | case2 n large ih =>
    rcases List.mem_append.mp member with earlier | last
    · exact ih earlier
    · rw [List.mem_singleton.mp last, digit?_digitChar]
      rfl

theorem digit_bounds {c : Char} (digit : (digit? c).isSome) : 48 ≤ c.toNat ∧ c.toNat ≤ 57 := by
  unfold digit? at digit
  split at digit
  · next bounds => exact bounds
  · simp at digit

theorem isBlank_digit {c : Char} (digit : (digit? c).isSome) : isBlank c = false := by
  obtain ⟨least, most⟩ := digit_bounds digit
  simp [isBlank]
  omega

theorem natDigits_ne_nil (n : Nat) : natDigits n ≠ [] := by
  unfold natDigits
  split <;> simp

theorem toList_decimal_ofNat (n : Nat) : (decimal n).toList = natDigits n := by
  simp [decimal, decimalNat]

theorem toList_decimal_negSucc (n : Nat) : (decimal (.negSucc n)).toList = '-' :: natDigits (n + 1) := by
  simp [decimal, decimalNat]

theorem decimal_ne_nil (n : Int) : (decimal n).toList ≠ [] := by
  cases n with
  | ofNat n => exact (toList_decimal_ofNat n).symm ▸ natDigits_ne_nil n
  | negSucc n => exact (toList_decimal_negSucc n).symm ▸ List.cons_ne_nil _ _

/-- An integer is one word. -/
theorem decimal_solid (n : Int) : ∀ c ∈ (decimal n).toList, isBlank c = false := by
  intro c member
  cases n with
  | ofNat n =>
    rw [Int.ofNat_eq_natCast, toList_decimal_ofNat] at member
    exact isBlank_digit (digit?_of_mem_natDigits member)
  | negSucc n =>
    rw [toList_decimal_negSucc] at member
    rcases List.mem_cons.mp member with rfl | member
    · decide
    · exact isBlank_digit (digit?_of_mem_natDigits member)

theorem readSigned_digit {low high : Int} {c : Char} {rest : List Char} (digit : (digit? c).isSome) :
    readSigned low high (c :: rest) = (readMagnitude high.toNat .tooLarge 0 (c :: rest)).map Int.ofNat := by
  unfold readSigned
  split <;> simp_all [digit?]

/-- An integer in the range is read back. -/
theorem readSigned_decimal {low high n : Int} (above : low ≤ n) (below : n ≤ high) :
    readSigned low high (decimal n).toList = .ok n := by
  cases n with
  | ofNat n =>
    have fits : n ≤ high.toNat := Int.toNat_le_toNat below
    have first := digit?_of_mem_natDigits (n := n) (List.head_mem (natDigits_ne_nil n))
    rw [Int.ofNat_eq_natCast, toList_decimal_ofNat, ← List.cons_head_tail (natDigits_ne_nil n),
      readSigned_digit first, List.cons_head_tail, readMagnitude_natDigits _ fits]
    rfl
  | negSucc n =>
    have digits : readSigned low high ('-' :: natDigits (n + 1)) =
        (readMagnitude (-low).toNat .tooSmall 0 (natDigits (n + 1))).map fun n => -Int.ofNat n := by
      rw [← List.cons_head_tail (natDigits_ne_nil (n + 1))]
      rfl
    rw [toList_decimal_negSucc, digits, readMagnitude_natDigits _ (by omega)]
    rfl

theorem readUnsigned_digit {high : Nat} {c : Char} {rest : List Char} (digit : (digit? c).isSome) :
    readUnsigned high (c :: rest) = readMagnitude high .tooLarge 0 (c :: rest) := by
  unfold readUnsigned
  split <;> simp_all [digit?]

/-- A natural number within the limit is read back. -/
theorem readUnsigned_decimalNat {high n : Nat} (within : n ≤ high) :
    readUnsigned high (decimalNat n).toList = .ok n := by
  have first := digit?_of_mem_natDigits (n := n) (List.head_mem (natDigits_ne_nil n))
  rw [decimalNat, String.toList_ofList, ← List.cons_head_tail (natDigits_ne_nil n), readUnsigned_digit first,
    List.cons_head_tail, readMagnitude_natDigits _ within]

theorem readInt64?_decimal (v : Int64) : readInt64? (decimal v.toInt).toList = some v := by
  have above : leastInt64 ≤ v.toInt := v.le_toInt
  have below : v.toInt ≤ greatestInt64 := Int.le_of_lt_add_one v.toInt_lt
  rw [readInt64?, readSigned_decimal above below]
  simp

end PartyBridge.Text
