import PartyBridge.Proofs.EngineOutput.Grammar
import PartyBridge.Proofs.Options.Validation
import PartyBridge.Proofs.Text.Lossy

/-!
# The marker in a line's bytes

Lines are looked at as text, and the engine writes bytes, some of which may be no text. For an accepted marker
this makes no difference (`tagged_iff_written`): a line is tagged exactly if the marker's bytes stand in it.
Only a marker with U+FFFD in it is also found where broken bytes stand in its place.
-/

namespace PartyBridge.EngineOutput
open Text Utf8

variable {marker : List Char}

/-- The end of a line is no part of an accepted marker. -/
theorem tagged_iff_decoded (filled : marker ≠ []) (solid : ∀ c ∈ marker, isBlank c = false) (bytes : Bytes) :
    classify marker (lineText bytes) ≠ .untagged ↔ marker <:+: (decodeLossy bytes).toList := by
  rw [Ne, classify_eq_untagged, not_not, lineText, infix_chomp filled solid]

theorem tagged_iff_encoded (filled : marker ≠ []) (solid : ∀ c ∈ marker, isBlank c = false)
    (whole : '\uFFFD' ∉ marker) (bytes : Bytes) :
    classify marker (lineText bytes) ≠ .untagged ↔ encodeChars marker <:+: bytes := by
  rw [tagged_iff_decoded filled solid]
  exact ⟨infix_of_decodeLossy whole, infix_decodeLossy filled⟩

/-! ### A broken byte in the marker's place -/

/-- A text with a broken byte in the place of a character. -/
def brokenAt (front back : List Char) : Bytes :=
  encodeChars front ++ 0xFF :: encodeChars back

theorem decodeLossy_brokenAt (front back : List Char) :
    (decodeLossy (brokenAt front back)).toList = front ++ '\uFFFD' :: back := by
  have broken : firstPiece 0xFF (encodeChars back) = (.broken, encodeChars back) := rfl
  rw [toList_decodeLossy, brokenAt, pieces_append, pieces_cons, broken, pieces_encodeChars, List.map_append,
    List.map_cons, map_toChar_char, map_toChar_char]
  rfl

/-- The one broken byte is too short for the character. -/
theorem not_encoded_brokenAt (front back : List Char) :
    ¬ encodeChars (front ++ '\uFFFD' :: back) <:+: brokenAt front back := by
  intro found
  have length := found.length_le
  have three : (String.utf8EncodeChar '\uFFFD').length = 3 := rfl
  rw [encodeChars_append, encodeChars_cons, brokenAt] at length
  simp only [List.length_append, List.length_cons, three] at length
  omega

theorem newline_not_mem_brokenAt {front back : List Char} (single : '\n' ∉ front ++ '\uFFFD' :: back) :
    10 ∉ brokenAt front back := by
  simp only [List.mem_append, List.mem_cons, not_or] at single
  simp only [brokenAt, List.mem_append, List.mem_cons, not_or, newline_mem_encodeChars]
  exact ⟨single.1, by decide, single.2.2⟩

theorem exists_tagged_unwritten (filled : marker ≠ []) (solid : ∀ c ∈ marker, isBlank c = false)
    (replacement : '\uFFFD' ∈ marker) :
    ∃ bytes, 10 ∉ bytes ∧ classify marker (lineText bytes) ≠ .untagged ∧ ¬ encodeChars marker <:+: bytes := by
  obtain ⟨front, back, rfl⟩ := List.append_of_mem replacement
  refine ⟨brokenAt front back, newline_not_mem_brokenAt ?_, ?_, not_encoded_brokenAt front back⟩
  · intro newline
    have blank : isBlank '\n' = true := by decide
    simp [solid _ newline] at blank
  · have read := decodeLossy_brokenAt front back
    rw [tagged_iff_decoded filled solid]
    exact ⟨[], [], by simpa using read.symm⟩

open Options

/-- A line is tagged exactly if the bytes of the marker stand in it, for every line, if and only if U+FFFD is
not in the marker. A marker with U+FFFD in it is found in some line where its bytes are not. -/
theorem tagged_iff_written {settings accepted : Settings} (valid : settings.validate = .ok accepted) :
    ((∀ bytes, classify accepted.marker.toList (lineText bytes) ≠ .untagged ↔
        encode accepted.marker <:+: bytes) ↔ '\uFFFD' ∉ accepted.marker.toList) ∧
    ('\uFFFD' ∈ accepted.marker.toList → ∃ bytes, 10 ∉ bytes ∧
      classify accepted.marker.toList (lineText bytes) ≠ .untagged ∧ ¬ encode accepted.marker <:+: bytes) := by
  obtain ⟨filled, solid⟩ := Settings.marker_of_validate valid
  have mistaken := exists_tagged_unwritten filled solid
  refine ⟨⟨fun same replacement => ?_, tagged_iff_encoded filled solid⟩, mistaken⟩
  obtain ⟨bytes, -, tagged, unwritten⟩ := mistaken replacement
  exact unwritten ((same bytes).mp tagged)

def marking (marker : String) : Settings :=
  ⟨0, encode "sum", defaultEngine, [], none, none, marker, none, none, defaultExitCloseGrace, false, false,
    false, false⟩

/-- A marker of longer and longer characters between two that were cut off, and the marker U+FFFD. -/
theorem tagged_iff_written_torn :
    (marking "é€😀").validate = .ok (marking "é€😀") ∧ '\uFFFD' ∉ "é€😀".toList ∧
    classify "é€😀".toList (lineText ([0xF0, 0x9F] ++ encode "é€😀" ++ [0xE2, 0x82, 10])) ≠ .untagged ∧
    (marking "\uFFFD").validate = .ok (marking "\uFFFD") ∧
    ∃ bytes, 10 ∉ bytes ∧ classify "\uFFFD".toList (lineText bytes) ≠ .untagged ∧
      ¬ encode "\uFFFD" <:+: bytes := by
  have whole : '\uFFFD' ∉ "é€😀".toList := by decide
  have valid : (marking "é€😀").validate = .ok (marking "é€😀") :=
    Settings.validate_of_sound (by decide +kernel) (by decide +kernel)
  have valid' : (marking "\uFFFD").validate = .ok (marking "\uFFFD") :=
    Settings.validate_of_sound (by decide +kernel) (by decide +kernel)
  have tagged := ((tagged_iff_written valid).1.mpr whole ([0xF0, 0x9F] ++ encode "é€😀" ++ [0xE2, 0x82, 10])).mpr
    ⟨_, _, rfl⟩
  exact ⟨valid, whole, tagged, valid', (tagged_iff_written valid').2 (by decide)⟩

end PartyBridge.EngineOutput
