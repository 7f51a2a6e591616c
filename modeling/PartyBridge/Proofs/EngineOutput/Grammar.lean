import Mathlib.Algebra.Group.Int.Defs
import PartyBridge.EngineOutput.Line
import PartyBridge.Proofs.Text.Blank
import PartyBridge.Proofs.Text.Numeral

/-!
# Which lines carry which value

`classify` looks for the marker anywhere in a line, and for the value in its second word. Said without its
functions (`classify_grammar`): a line without the marker is untagged; a line with the marker carries an
integer of 64 bits if the second maximal run of characters that are no blanks is a numeral for it; and every
other line with the marker is malformed.
-/

namespace PartyBridge.EngineOutput
open Text

/-- Characters that are no blanks, at least one. -/
def Solid (run : List Char) : Prop :=
  run ≠ [] ∧ ∀ c ∈ run, isBlank c = false

/-- The second maximal run of characters that are no blanks: blanks may stand in front of the first run, at
least one blank divides the two, and the second ends where a blank follows or nothing. -/
def SecondRun (line run : List Char) : Prop :=
  ∃ lead first gap rest, line = lead ++ (first ++ (gap ++ (run ++ rest))) ∧
    (∀ c ∈ lead, isBlank c) ∧ Solid first ∧ (gap ≠ [] ∧ ∀ c ∈ gap, isBlank c) ∧ Solid run ∧ Apart rest

/-- The integer that the second run of a line denotes. -/
def Payload (line : List Char) (n : Int) : Prop :=
  ∃ run, SecondRun line run ∧ Numeral run n

theorem secondRun_iff {line run : List Char} : (words line)[1]? = some run ↔ SecondRun line run := by
  constructor
  · intro found
    cases all : words line with
    | nil => simp [all] at found
    | cons first more =>
      obtain ⟨lead, behind, rfl, blank, solid, apart, others⟩ := words_eq_cons.mp all
      cases more with
      | nil => simp [all] at found
      | cons second more =>
        obtain ⟨gap, rest, rfl, between, solid', apart', -⟩ := words_eq_cons.mp others
        rw [all] at found
        cases found
        refine ⟨lead, first, gap, rest, rfl, blank, solid, ⟨?_, between⟩, solid', apart'⟩
        -- without a gap the first run would go on with the second
        rintro rfl
        obtain ⟨c, more, rfl⟩ := List.exists_cons_of_ne_nil solid'.1
        have blank := apart c rfl
        simp [solid'.2 c List.mem_cons_self] at blank
  · rintro ⟨lead, first, gap, rest, rfl, blank, solid, ⟨filled, between⟩, solid', apart'⟩
    have others : words (gap ++ (run ++ rest)) = run :: words rest :=
      words_eq_cons.mpr ⟨gap, rest, rfl, between, solid', apart', rfl⟩
    have all : words (lead ++ (first ++ (gap ++ (run ++ rest)))) = first :: run :: words rest :=
      words_eq_cons.mpr ⟨lead, _, rfl, blank, solid, apart_of_blank filled between _, others⟩
    rw [all]
    rfl

theorem classify_eq_untagged {marker line : List Char} :
    classify marker line = .untagged ↔ ¬ marker <:+: line := by
  rw [← occurs_iff, classify]
  split
  · split
    · simp [*]
    · split <;> simp [*]
  · simp [*]

theorem classify_marked {marker line : List Char} (marked : marker <:+: line) :
    classify marker line = (((words line)[1]?).bind readInt64?).elim .malformed .value := by
  rw [classify, if_pos (occurs_iff.mpr marked)]
  cases (words line)[1]? with
  | none => rfl
  | some word => cases found : readInt64? word <;> simp [found]

theorem payload_iff {line : List Char} {v : Int64} :
    ((words line)[1]?).bind readInt64? = some v ↔ Payload line v.toInt := by
  simp only [Option.bind_eq_some_iff, secondRun_iff, readInt64?_eq_some, Payload]

/-- A payload of 64 bits is a value, and a value is a payload of 64 bits. -/
theorem no_payload_iff {line : List Char} :
    ((words line)[1]?).bind readInt64? = none ↔ ¬ ∃ n, Payload line n ∧ -2 ^ 63 ≤ n ∧ n < 2 ^ 63 := by
  constructor
  · rintro none ⟨n, payload, least, most⟩
    have same : (Int64.ofInt n).toInt = n := Int64.toInt_ofInt_of_le least most
    rw [← same, ← payload_iff, none] at payload
    cases payload
  · intro nothing
    refine Option.eq_none_iff_forall_ne_some.mpr fun v found => nothing ?_
    exact ⟨v.toInt, payload_iff.mp found, v.le_toInt, v.toInt_lt⟩

/-- What a line is taken for, whatever the marker and the line: a line without the marker is untagged, a line
with the marker carries the integer of 64 bits that its second run denotes, and is malformed if there is
none. -/
theorem classify_grammar (marker line : List Char) :
    (classify marker line = .untagged ↔ ¬ marker <:+: line) ∧
    (∀ v : Int64, classify marker line = .value v ↔ marker <:+: line ∧ Payload line v.toInt) ∧
    (classify marker line = .malformed ↔
      marker <:+: line ∧ ¬ ∃ n, Payload line n ∧ -2 ^ 63 ≤ n ∧ n < 2 ^ 63) := by
  by_cases marked : marker <:+: line
  · refine ⟨classify_eq_untagged, ?_⟩
    rw [classify_marked marked, ← no_payload_iff]
    simp only [← payload_iff, marked, true_and]
    cases ((words line)[1]?).bind readInt64? <;> simp
  · have untagged := classify_eq_untagged.mpr marked
    simp [untagged, marked]

-- a sign, leading zeros and the least value; a value that is one too large; two signs
example : classify ['M'] "\u3000M -00009223372036854775808 7".toList = .value Int64.minValue := by decide +kernel
example : classify ['M'] "9 M\t+9223372036854775808".toList = .malformed := by decide +kernel
example : classify ['M'] "M +-1".toList = .malformed := by decide +kernel

end PartyBridge.EngineOutput
