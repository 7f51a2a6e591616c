import PartyBridge.Proofs.Json.Reader

/-!
# How far a number reaches

A number is read from the run of characters that numbers may have, and what stands behind the run does not
matter to it: over two texts with the same run a reader gives the same number and leaves the same part of the
run (`readNumber_agrees`).
-/

namespace PartyBridge.Json
open Text

def isNumeral (ch : Char) : Bool :=
  (digit? ch).isSome || ch == '.' || ch == 'e' || ch == 'E' || ch == '+' || ch == '-'

/-- No number goes on into this text. -/
def Stops (more : List Char) : Prop :=
  ∀ ch ∈ more.head?, isNumeral ch = false

theorem digit?_of_stops {ch : Char} {more : List Char} (stops : Stops (ch :: more)) : digit? ch = none := by
  have := stops ch rfl
  simp only [isNumeral, Bool.or_eq_false_iff, Option.isSome_eq_false_iff, Option.isNone_iff_eq_none] at this
  exact this.1.1.1.1.1

theorem exists_run (text : List Char) :
    ∃ run more, text = run ++ more ∧ (∀ ch ∈ run, isNumeral ch = true) ∧ Stops more := by
  induction text with
  | nil => exact ⟨[], [], rfl, by simp, by simp [Stops]⟩
  | cons ch text ih =>
    by_cases numeral : isNumeral ch = true
    · obtain ⟨run, more, rfl, numerals, stops⟩ := ih
      exact ⟨ch :: run, more, rfl, List.forall_mem_cons.mpr ⟨numeral, numerals⟩, stops⟩
    · refine ⟨[], ch :: text, rfl, by simp, ?_⟩
      rintro first ⟨⟩
      exact Bool.eq_false_iff.mpr numeral

/-- A value that is no string, list or object. -/
def Value.Bare : Value → Prop
  | .str _ | .arr _ | .obj _ => False
  | .null | .bool _ | .int _ | .float _ => True

/-! ### Digits of a run -/

section Digits
variable {more : List Char} (stops : Stops more)
include stops

theorem absorbDigits_run (run : List Char) (n taken : Nat) :
    absorbDigits (run ++ more) n taken =
      ((absorbDigits run n taken).1, (absorbDigits run n taken).2.1,
        (absorbDigits run n taken).2.2 ++ more) := by
  induction run generalizing n taken with
  | nil =>
    cases more with
    | nil => rfl
    | cons ch more => simp [absorbDigits, digit?_of_stops stops]
  | cons ch run ih =>
    rw [List.cons_append, absorbDigits, absorbDigits]
    cases digit? ch with
    | none => rfl
    | some d =>
      simp only
      split
      · rfl
      · exact ih _ _

theorem countDigits_run (run : List Char) (n : Nat) : countDigits (run ++ more) n = countDigits run n := by
  induction run generalizing n with
  | nil =>
    cases more with
    | nil => rfl
    | cons ch more => simp [countDigits, digit?_of_stops stops]
  | cons ch run ih =>
    rw [List.cons_append, countDigits, countDigits]
    split
    · exact ih _
    · rfl

theorem exponentDigits_run (run : List Char) (n taken : Nat) :
    exponentDigits (run ++ more) n taken = exponentDigits run n taken := by
  induction run generalizing n taken with
  | nil =>
    cases more with
    | nil => rfl
    | cons ch more => simp [exponentDigits, digit?_of_stops stops]
  | cons ch run ih =>
    rw [List.cons_append, exponentDigits, exponentDigits]
    cases digit? ch with
    | none => rfl
    | some d =>
      simp only
      split
      · rfl
      · exact ih _ _

end Digits

theorem absorbDigits_le (run : List Char) (n taken : Nat) :
    (absorbDigits run n taken).2.1 ≤ taken + run.length := by
  induction run generalizing n taken with
  | nil => exact Nat.le_refl _
  | cons ch run ih =>
    rw [absorbDigits, List.length_cons]
    cases digit? ch with
    | none => exact Nat.le_add_right _ _
    | some d =>
      simp only
      split
      · exact Nat.le_add_right _ _
      · exact Nat.le_trans (ih _ _) (by omega)

theorem countDigits_le (run : List Char) (n : Nat) : countDigits run n ≤ n + run.length := by
  induction run generalizing n with
  | nil => exact Nat.le_refl _
  | cons ch run ih =>
    rw [countDigits, List.length_cons]
    split
    · exact Nat.le_trans (ih _) (by omega)
    · exact Nat.le_add_right _ _

theorem exponentDigits_le (run : List Char) (n taken : Nat) :
    (exponentDigits run n taken).2.1 ≤ taken + run.length := by
  induction run generalizing n taken with
  | nil => exact Nat.le_refl _
  | cons ch run ih =>
    rw [exponentDigits, List.length_cons]
    cases digit? ch with
    | none => exact Nat.le_add_right _ _
    | some d =>
      simp only
      split
      · show taken + 1 ≤ _
        omega
      · exact Nat.le_trans (ih _ _) (by omega)

/-! ### Readers -/

/-- What is read before `more` is a bare value and is read before `after` too, with the same part of the run
left. -/
def Agrees (more after run : List Char) (result other : Read Value) : Prop :=
  ∀ v c, result = .ok (v, c) → v.Bare ∧
    ∃ left d, left <:+ run ∧ c.rest = left ++ more ∧ other = .ok (v, d) ∧ d.rest = left ++ after

section Readers
variable {more after run : List Char} {c d : Cursor}

theorem Agrees.of_suffix {left : List Char} {result other : Read Value} (shorter : left <:+ run)
    (agrees : Agrees more after left result other) : Agrees more after run result other := by
  intro v c read
  obtain ⟨bare, last, d, within, here, again, there⟩ := agrees v c read
  exact ⟨bare, last, d, within.trans shorter, here, again, there⟩

theorem Agrees.error (fault : Fault) (other : Read Value) : Agrees more after run (.error fault) other := nofun

theorem skip_run {n : Nat} (within : n ≤ run.length) (here : c.rest = run ++ more) :
    (c.skip n).rest = run.drop n ++ more := by
  rw [Cursor.skip, here, List.drop_append_of_le_length within]

theorem next_run {first : Char} (here : c.rest = first :: run ++ more) : c.next.rest = run ++ more :=
  next_rest here

theorem bare_integerValue (negative : Bool) (n : Nat) : (integerValue negative n).Bare := by
  unfold integerValue
  split
  · trivial
  · split
    · split <;> trivial
    · trivial

section Run
variable (stops : Stops more) (here : c.rest = run ++ more)
include stops here

theorem run_cons {ch : Char} (numeral : isNumeral ch) (first : (c.rest.head? == some ch) = true) :
    ∃ left, run = ch :: left := by
  rw [here, beq_iff_eq] at first
  cases run with
  | nil =>
    rw [stops ch first] at numeral
    cases numeral
  | cons other left =>
    cases first
    exact ⟨left, rfl⟩

theorem skipDigits_run : c.skipDigits.rest = run.drop (countDigits run 0) ++ more := by
  have within := countDigits_le run 0
  rw [Nat.zero_add] at within
  rw [Cursor.skipDigits, here, countDigits_run stops, skip_run within here]

end Run

variable (stops : Stops more) (halts : Stops after)
variable (here : c.rest = run ++ more) (there : d.rest = run ++ after)

theorem readScaled_agrees (negative : Bool) (n : Nat) (exponent : Int) (here : c.rest = run ++ more)
    (there : d.rest = run ++ after) :
    Agrees more after run (readScaled negative n exponent c) (readScaled negative n exponent d) := by
  unfold readScaled
  generalize Number.scaleByTen negative n exponent = scaled
  cases scaled with
  | none => exact .error _ _
  | some x =>
    rintro v c' ⟨⟩
    exact ⟨trivial, run, d, List.suffix_rfl, here, rfl, there⟩

/-- Behind a sign, if there is one, both stand before the same part of the run. -/
theorem sign_agrees (halts : Stops after) (here : c.rest = run ++ more) (there : d.rest = run ++ after) :
    ∃ left, left <:+ run ∧
      (if d.rest.head? == some '-' || d.rest.head? == some '+' then c.next else c).rest = left ++ more ∧
      (if d.rest.head? == some '-' || d.rest.head? == some '+' then d.next else d).rest = left ++ after := by
  split
  · next signed =>
    obtain ⟨sign, left, rfl⟩ : ∃ sign left, run = sign :: left := by
      rcases Bool.or_eq_true _ _ ▸ signed with minus | plus
      · exact ⟨_, run_cons halts there (by decide) minus⟩
      · exact ⟨_, run_cons halts there (by decide) plus⟩
    exact ⟨left, List.suffix_cons sign left, next_run here, next_run there⟩
  · exact ⟨run, List.suffix_rfl, here, there⟩

include stops halts here there

theorem head_agrees (ch : Char) (numeral : isNumeral ch) :
    (c.rest.head? == some ch) = (d.rest.head? == some ch) := by
  rw [Bool.eq_iff_iff]
  constructor
  · intro first
    obtain ⟨left, rfl⟩ := run_cons stops here numeral first
    simp [there]
  · intro first
    obtain ⟨left, rfl⟩ := run_cons halts there numeral first
    simp [here]

theorem atDigit_agrees : c.atDigit = d.atDigit := by
  cases run with
  | cons first run => simp [Cursor.atDigit, here, there]
  | nil =>
    have other : ∀ {c : Cursor}, Stops c.rest → c.atDigit = false := by
      intro c stops
      cases rest : c.rest with
      | nil => simp [Cursor.atDigit, rest]
      | cons ch more => simp [Cursor.atDigit, rest, digit?_of_stops (rest ▸ stops)]
    have first : Stops c.rest := here ▸ stops
    have second : Stops d.rest := there ▸ halts
    rw [other first, other second]

theorem readExponent_agrees (negative : Bool) (n : Nat) (start : Int) :
    Agrees more after run (readExponent negative n start c) (readExponent negative n start d) := by
  have minus := head_agrees stops halts here there '-' (by decide)
  have plus := head_agrees stops halts here there '+' (by decide)
  obtain ⟨left, shorter, here, there⟩ := sign_agrees halts here there
  refine .of_suffix shorter ?_
  unfold readExponent
  simp only [minus, plus]
  generalize (d.rest.head? == some '-') = down at *
  generalize (if down || d.rest.head? == some '+' then c.next else c) = c at *
  generalize (if down || d.rest.head? == some '+' then d.next else d) = d at *
  cases left with
  | nil =>
    rw [List.nil_append] at here
    cases more with
    | nil => simp only [here]; exact .error _ _
    | cons ch more => simp only [here, digit?_of_stops stops]; exact .error _ _
  | cons first left =>
    simp only [here, there, List.cons_append]
    cases digit? first with
    | none => exact .error _ _
    | some digit =>
      have here := next_run here
      have there := next_run there
      have within := exponentDigits_le left digit 0
      rw [Nat.zero_add] at within
      simp only [here, there, exponentDigits_run stops, exponentDigits_run halts]
      generalize exponentDigits left digit 0 = read at *
      obtain ⟨exponent, taken, beyond⟩ := read
      have here := skip_run within here
      have there := skip_run within there
      refine .of_suffix ((List.drop_suffix taken left).trans (List.suffix_cons first left)) ?_
      simp only
      split
      · split
        · exact .error _ _
        · rintro v c' ⟨⟩
          exact ⟨trivial, _, _, List.drop_suffix _ _, skipDigits_run stops here, rfl,
            skipDigits_run halts there⟩
      · exact readScaled_agrees negative n _ here there

omit stops halts here there in
theorem atExponent_eq (c : Cursor) :
    c.atExponent = (c.rest.head? == some 'e' || c.rest.head? == some 'E') := by
  unfold Cursor.atExponent
  rcases c.rest with - | ⟨ch, more⟩
  · rfl
  · split <;> simp_all

/-- Readers agree on an exponent, if there is one. -/
theorem exponent_agrees (negative : Bool) (n : Nat) (start : Int) {result other : Read Value}
    (otherwise : Agrees more after run result other) :
    Agrees more after run (if c.atExponent then readExponent negative n start c.next else result)
      (if d.atExponent then readExponent negative n start d.next else other) := by
  have both : c.atExponent = d.atExponent := by
    rw [atExponent_eq, atExponent_eq, head_agrees stops halts here there 'e' (by decide),
      head_agrees stops halts here there 'E' (by decide)]
  rw [both]
  split
  · next marked =>
    obtain ⟨mark, left, rfl⟩ : ∃ mark left, run = mark :: left := by
      rcases Bool.or_eq_true _ _ ▸ atExponent_eq d ▸ marked with lower | upper
      · exact ⟨_, run_cons halts there (by decide) lower⟩
      · exact ⟨_, run_cons halts there (by decide) upper⟩
    exact .of_suffix (List.suffix_cons mark left)
      (readExponent_agrees stops halts (next_run here) (next_run there) negative n start)
  · exact otherwise

theorem readFraction_agrees (negative : Bool) (n : Nat) (start : Int) :
    Agrees more after run (readFraction negative n start c) (readFraction negative n start d) := by
  have within := absorbDigits_le run n 0
  rw [Nat.zero_add] at within
  unfold readFraction
  simp only [here, there, absorbDigits_run stops, absorbDigits_run halts]
  generalize absorbDigits run n 0 = read at *
  obtain ⟨whole, taken, rest⟩ := read
  have here := skip_run within here
  have there := skip_run within there
  refine .of_suffix (List.drop_suffix taken run) ?_
  simp only [atDigit_agrees stops halts here there]
  split
  · have here := skipDigits_run stops here
    have there := skipDigits_run halts there
    exact .of_suffix (List.drop_suffix _ _)
      (exponent_agrees stops halts here there _ _ _ (readScaled_agrees _ _ _ here there))
  · split
    · exact .error _ _
    · exact exponent_agrees stops halts here there _ _ _ (readScaled_agrees _ _ _ here there)

/-- Readers agree on a fraction, if there is one. -/
theorem fraction_agrees (negative : Bool) (n : Nat) (start : Int) {result other : Read Value}
    (otherwise : Agrees more after run result other) :
    Agrees more after run (if c.rest.head? == some '.' then readFraction negative n start c.next else result)
      (if d.rest.head? == some '.' then readFraction negative n start d.next else other) := by
  rw [head_agrees stops halts here there '.' (by decide)]
  split
  · next marked =>
    obtain ⟨left, rfl⟩ := run_cons halts there (by decide) marked
    exact .of_suffix (List.suffix_cons _ left)
      (readFraction_agrees stops halts (next_run here) (next_run there) negative n start)
  · exact otherwise

theorem readNumberTail_agrees (negative : Bool) (n : Nat) :
    Agrees more after run (readNumberTail negative n c) (readNumberTail negative n d) := by
  unfold readNumberTail
  refine fraction_agrees stops halts here there _ _ _ (exponent_agrees stops halts here there _ _ _ ?_)
  rintro v c' ⟨⟩
  exact ⟨bare_integerValue negative n, run, d, List.suffix_rfl, here, rfl, there⟩

omit halts there in
theorem readNumber_ne_nil {negative : Bool} {result : Value × Cursor}
    (read : readNumber negative c = .ok result) : run ≠ [] := by
  rintro rfl
  unfold readNumber at read
  rw [List.nil_append] at here
  cases more with
  | nil => simp [here] at read
  | cons ch more =>
    have other := digit?_of_stops stops
    have nonzero : ch ≠ '0' := by
      rintro rfl
      cases other
    simp [here, other] at read

/-- What stands behind the run of a number does not matter to it. -/
theorem readNumber_agrees (negative : Bool) :
    Agrees more after run.tail (readNumber negative c) (readNumber negative d) := by
  cases run with
  | nil => exact fun v c' read => absurd rfl (readNumber_ne_nil stops here read)
  | cons first left =>
    have ahead := next_run here
    have beyond := next_run there
    rw [List.tail_cons]
    unfold readNumber
    by_cases zero : first = '0'
    · subst zero
      simp only [here, there, List.cons_append, atDigit_agrees stops halts ahead beyond]
      split
      · exact .error _ _
      · exact readNumberTail_agrees stops halts ahead beyond negative 0
    · simp only [here, there, List.cons_append]
      cases digit? first with
      | none => exact .error _ _
      | some digit =>
        have within := absorbDigits_le left digit 0
        rw [Nat.zero_add] at within
        simp only [ahead, beyond, absorbDigits_run stops, absorbDigits_run halts]
        generalize absorbDigits left digit 0 = read at *
        obtain ⟨n, taken, rest⟩ := read
        have here := skip_run within ahead
        have there := skip_run within beyond
        have further := countDigits_le (left.drop taken) 0
        rw [Nat.zero_add] at further
        refine .of_suffix (List.drop_suffix taken left) ?_
        simp only [atDigit_agrees stops halts here there, here, there, countDigits_run stops,
          countDigits_run halts]
        split
        · have here := skip_run further here
          have there := skip_run further there
          exact .of_suffix (List.drop_suffix _ _) (fraction_agrees stops halts here there _ _ _
            (exponent_agrees stops halts here there _ _ _ (readScaled_agrees _ _ _ here there)))
        · exact readNumberTail_agrees stops halts here there negative n

end Readers
end PartyBridge.Json
