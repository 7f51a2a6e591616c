import Mathlib.Data.Nat.Digits.Defs
import PartyBridge.Proofs.Text.Integer

/-!
# Which texts are integers

A text is read as an integer exactly if it is an optional sign and at least one decimal digit, and what the
digits denote is in the range that is asked for (`readSigned_eq_ok`). Leading zeros do not matter, and digits
are added up only as far as they stay in the range: once they are past it, no further digit leads back.
-/

namespace PartyBridge.Text

/-- At least one digit, and nothing else. -/
def AllDigits (text : List Char) : Prop :=
  text ≠ [] ∧ ∀ c ∈ text, c.isDigit

/-- What decimal digits denote; the first of them weighs most. -/
def digitsValue (digits : List Char) : Nat :=
  Nat.ofDigits 10 (digits.reverse.map fun c => c.toNat - '0'.toNat)

/-- A text that denotes an integer, in decimal. -/
inductive Numeral : List Char → Int → Prop where
  | plain {digits : List Char} (all : AllDigits digits) : Numeral digits (digitsValue digits)
  | plus {digits : List Char} (all : AllDigits digits) : Numeral ('+' :: digits) (digitsValue digits)
  | minus {digits : List Char} (all : AllDigits digits) : Numeral ('-' :: digits) (-digitsValue digits)

theorem isDigit_iff {c : Char} : c.isDigit ↔ '0' ≤ c ∧ c ≤ '9' := by
  simp only [Char.isDigit, Bool.and_eq_true, decide_eq_true_eq]
  rfl

theorem digit?_of_isDigit {c : Char} (digit : c.isDigit) : digit? c = some (c.toNat - '0'.toNat) := by
  rw [digit?, if_pos (isDigit_iff.mp digit)]
  rfl

theorem digit?_of_not_isDigit {c : Char} (other : ¬ c.isDigit) : digit? c = none := by
  rw [digit?, if_neg (mt isDigit_iff.mpr other)]

theorem digitsValue_cons (c : Char) (rest : List Char) :
    digitsValue (c :: rest) = (c.toNat - '0'.toNat) * 10 ^ rest.length + digitsValue rest := by
  rw [digitsValue, List.reverse_cons, List.map_append, Nat.ofDigits_append, List.map_cons, List.map_nil,
    Nat.ofDigits_singleton, List.length_map, List.length_reverse, digitsValue, Nat.mul_comm, Nat.add_comm]

/-! ### Digits -/

/-- What has been read so far only grows, so it is past the limit in the end if it ever is. -/
theorem readMagnitude_eq_ok {limit : Nat} {beyond : IntegerFault} {n m : Nat} {text : List Char}
    (within : n ≤ limit) :
    readMagnitude limit beyond n text = .ok m ↔
      (∀ c ∈ text, c.isDigit) ∧ m = n * 10 ^ text.length + digitsValue text ∧ m ≤ limit := by
  induction text generalizing n with
  | nil =>
    have nothing : digitsValue [] = 0 := rfl
    simp only [readMagnitude, Except.ok.injEq, List.length_nil, nothing]
    constructor
    · rintro rfl
      exact ⟨by simp, by omega, within⟩
    · rintro ⟨-, same, -⟩
      omega
  | cons c rest ih =>
    rw [List.forall_mem_cons]
    by_cases digit : c.isDigit
    · have sum : (n * 10 + (c.toNat - '0'.toNat)) * 10 ^ rest.length + digitsValue rest =
          n * 10 ^ (c :: rest).length + digitsValue (c :: rest) := by
        rw [digitsValue_cons, List.length_cons, Nat.pow_succ]
        ring
      simp only [readMagnitude, digit?_of_isDigit digit]
      by_cases past : limit < n * 10 + (c.toNat - '0'.toNat)
      · rw [if_pos past]
        constructor
        · intro failed
          cases failed
        · rintro ⟨-, rfl, within'⟩
          have positive : 0 < 10 ^ rest.length := Nat.pow_pos (by decide)
          have grown := Nat.le_mul_of_pos_right (n * 10 + (c.toNat - '0'.toNat)) positive
          omega
      · rw [if_neg past, ih (Nat.le_of_not_lt past), sum]
        simp [digit]
    · simp [readMagnitude, digit?_of_not_isDigit digit, digit]

theorem readMagnitude_map {limit : Nat} {beyond : IntegerFault} {digits : List Char} (filled : digits ≠ [])
    (signed : Nat → Int) {n : Int} :
    (readMagnitude limit beyond 0 digits).map signed = .ok n ↔
      AllDigits digits ∧ n = signed (digitsValue digits) ∧ digitsValue digits ≤ limit := by
  have read (m : Nat) : readMagnitude limit beyond 0 digits = .ok m ↔
      AllDigits digits ∧ m = digitsValue digits ∧ m ≤ limit := by
    rw [readMagnitude_eq_ok (Nat.zero_le limit), Nat.zero_mul, Nat.zero_add, AllDigits]
    simp [filled]
  constructor
  · intro result
    cases magnitude : readMagnitude limit beyond 0 digits with
    | error fault => simp [magnitude, Except.map] at result
    | ok m =>
      obtain ⟨all, rfl, within⟩ := (read m).mp magnitude
      simp only [magnitude, Except.map, Except.ok.injEq] at result
      exact ⟨all, result.symm, within⟩
  · rintro ⟨all, rfl, within⟩
    rw [(read _).mpr ⟨all, rfl, within⟩]
    rfl

/-! ### Signs -/

theorem not_allDigits_cons {c : Char} {rest : List Char} (other : ¬ c.isDigit) : ¬ AllDigits (c :: rest) :=
  fun all => other (all.2 c List.mem_cons_self)

section Signs
variable {low high n : Int} {digits rest : List Char} {c : Char}

theorem numeral_plus : Numeral ('+' :: digits) n ↔ AllDigits digits ∧ n = digitsValue digits := by
  constructor
  · intro numeral
    cases numeral with
    | plain all => exact absurd all (not_allDigits_cons (by decide))
    | plus all => exact ⟨all, rfl⟩
  · rintro ⟨all, rfl⟩
    exact .plus all

theorem numeral_minus : Numeral ('-' :: digits) n ↔ AllDigits digits ∧ n = -digitsValue digits := by
  constructor
  · intro numeral
    cases numeral with
    | plain all => exact absurd all (not_allDigits_cons (by decide))
    | minus all => exact ⟨all, rfl⟩
  · rintro ⟨all, rfl⟩
    exact .minus all

theorem numeral_plain (plus : c ≠ '+') (minus : c ≠ '-') :
    Numeral (c :: rest) n ↔ AllDigits (c :: rest) ∧ n = digitsValue (c :: rest) := by
  constructor
  · intro numeral
    cases numeral with
    | plain all => exact ⟨all, rfl⟩
    | plus all => exact absurd rfl plus
    | minus all => exact absurd rfl minus
  · rintro ⟨all, rfl⟩
    exact .plain all

theorem readMagnitude_ofNat (most : 0 ≤ high) (filled : digits ≠ []) :
    (readMagnitude high.toNat .tooLarge 0 digits).map Int.ofNat = .ok n ↔
      AllDigits digits ∧ n = digitsValue digits ∧ n ≤ high := by
  rw [readMagnitude_map filled, Int.ofNat_eq_natCast]
  refine and_congr_right fun _ => and_congr_right fun same => ?_
  omega

theorem readSigned_plus (most : 0 ≤ high) :
    readSigned low high ('+' :: digits) = .ok n ↔
      AllDigits digits ∧ n = digitsValue digits ∧ n ≤ high := by
  cases digits with
  | nil => simp [readSigned, AllDigits]
  | cons c rest => exact readMagnitude_ofNat most (List.cons_ne_nil c rest)

theorem readSigned_minus (least : low ≤ 0) :
    readSigned low high ('-' :: digits) = .ok n ↔
      AllDigits digits ∧ n = -digitsValue digits ∧ low ≤ n := by
  cases digits with
  | nil => simp [readSigned, AllDigits]
  | cons c rest =>
    have read : readSigned low high ('-' :: c :: rest) =
        (readMagnitude (-low).toNat .tooSmall 0 (c :: rest)).map fun m => -Int.ofNat m := rfl
    rw [read, readMagnitude_map (List.cons_ne_nil c rest), Int.ofNat_eq_natCast]
    refine and_congr_right fun _ => and_congr_right fun same => ?_
    omega

theorem readSigned_plain (most : 0 ≤ high) (plus : c ≠ '+') (minus : c ≠ '-') :
    readSigned low high (c :: rest) = .ok n ↔
      AllDigits (c :: rest) ∧ n = digitsValue (c :: rest) ∧ n ≤ high := by
  have read : readSigned low high (c :: rest) =
      (readMagnitude high.toNat .tooLarge 0 (c :: rest)).map Int.ofNat := by
    unfold readSigned
    split <;> simp_all
  rw [read]
  exact readMagnitude_ofNat most (List.cons_ne_nil c rest)

end Signs

/-- The texts that are read as an integer are the numerals of the range. -/
theorem readSigned_eq_ok {low high n : Int} (least : low ≤ 0) (most : 0 ≤ high) {text : List Char} :
    readSigned low high text = .ok n ↔ Numeral text n ∧ low ≤ n ∧ n ≤ high := by
  cases text with
  | nil =>
    constructor
    · intro read
      cases read
    · rintro ⟨numeral, -⟩
      cases numeral with
      | plain all => exact absurd rfl all.1
  | cons c rest =>
    by_cases plus : c = '+'
    · subst plus
      rw [readSigned_plus most, numeral_plus, and_assoc]
      refine and_congr_right fun _ => and_congr_right fun same => ?_
      omega
    · by_cases minus : c = '-'
      · subst minus
        rw [readSigned_minus least, numeral_minus, and_assoc]
        refine and_congr_right fun _ => and_congr_right fun same => ?_
        omega
      · rw [readSigned_plain most plus minus, numeral_plain plus minus, and_assoc]
        refine and_congr_right fun _ => and_congr_right fun same => ?_
        omega

/-! ### Integers of 64 bits -/

theorem readSigned_int64 {text : List Char} {n : Int} :
    readSigned leastInt64 greatestInt64 text = .ok n ↔
      Numeral text n ∧ leastInt64 ≤ n ∧ n ≤ greatestInt64 :=
  readSigned_eq_ok (by decide) (by decide)

theorem readInt64?_eq_some {text : List Char} {v : Int64} :
    readInt64? text = some v ↔ Numeral text v.toInt := by
  rw [readInt64?]
  constructor
  · intro found
    split at found
    · next n result =>
      obtain ⟨numeral, least, most⟩ := readSigned_int64.mp result
      cases found
      rwa [Int64.toInt_ofInt_of_le least (Int.lt_add_one_of_le most)]
    · cases found
  · intro numeral
    have above : leastInt64 ≤ v.toInt := v.le_toInt
    have below : v.toInt ≤ greatestInt64 := Int.le_of_lt_add_one v.toInt_lt
    rw [readSigned_int64.mpr ⟨numeral, above, below⟩]
    simp

end PartyBridge.Text
