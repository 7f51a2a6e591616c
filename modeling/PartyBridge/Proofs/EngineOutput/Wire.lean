import PartyBridge.Proofs.EngineOutput.Grammar
import PartyBridge.Proofs.EngineOutput.Stream
import PartyBridge.Proofs.Text.Blank
import PartyBridge.Proofs.Text.Integer
import PartyBridge.Proofs.Text.Utf8

/-!
# The form in which an engine writes its values

An engine writes a value in a line of its own, behind a word that holds the marker, and may write other
lines, without the marker, in between. A drain of such an output finds the values again, in their order,
and nothing else (`drain_items`).
-/

namespace PartyBridge.EngineOutput
open ByteStream Text

variable {marker : List Char}

/-- A line with a value: blanks, a word that holds the marker, blanks, the value, and anything behind a
blank. -/
structure ValueLine (marker : List Char) where
  lead : List Char
  word : List Char
  gap : List Char
  value : Int64
  tail : List Char
  lead_blank : ∀ c ∈ lead, isBlank c
  word_filled : word ≠ []
  word_solid : ∀ c ∈ word, isBlank c = false
  word_marked : marker <:+: word
  gap_filled : gap ≠ []
  gap_blank : ∀ c ∈ gap, isBlank c
  tail_apart : Apart tail
  single : '\n' ∉ lead ++ gap ++ tail

/-- A line of an engine: one with a value, or one without the marker. -/
inductive Item (marker : List Char) where
  | value (line : ValueLine marker)
  | noise (text : List Char) (unmarked : ¬ marker <:+: text) (single : '\n' ∉ text)

inductive LineEnd where
  | newline
  | returned
deriving DecidableEq, Repr

def LineEnd.text : LineEnd → List Char
  | .newline => ['\n']
  | .returned => ['\r', '\n']

def ValueLine.text (line : ValueLine marker) : List Char :=
  line.lead ++ (line.word ++ (line.gap ++ ((decimal line.value.toInt).toList ++ line.tail)))

namespace Item

def text : Item marker → List Char
  | .value line => line.text
  | .noise text _ _ => text

def value? : Item marker → Option Int64
  | .value line => some line.value
  | .noise _ _ _ => none

/-- What a drain should take a line for. -/
def kind : Item marker → LineKind
  | .value line => .value line.value
  | .noise _ _ _ => .untagged

end Item

def lineBytes (line : Item marker × LineEnd) : Bytes :=
  Utf8.encodeChars (line.1.text ++ line.2.text)

/-! ### One line -/

theorem classify_words {line word digits : List Char} {more : List (List Char)} {v : Int64}
    (marked : marker <:+: line) (found : words line = word :: digits :: more)
    (number : readInt64? digits = some v) : classify marker line = .value v := by
  simp [classify, occurs_iff.mpr marked, found, number]

theorem ValueLine.classify_chomp (line : ValueLine marker) :
    classify marker (chomp line.text) = .value line.value := by
  have digits_filled := decimal_ne_nil line.value.toInt
  have digits_solid := decimal_solid line.value.toInt
  have tail_apart : Apart (chomp line.tail) := line.tail_apart.of_start (dropEndWhile_isPrefix _ _)
  -- line ends are taken off the tail only, since the value in front of it has none
  have chomped : chomp line.text = line.lead ++ (line.word ++ (line.gap ++
      ((decimal line.value.toInt).toList ++ chomp line.tail))) := by
    simpa [ValueLine.text] using
      chomp_append_word digits_filled digits_solid (line.lead ++ (line.word ++ line.gap)) line.tail
  have found : words (chomp line.text) =
      line.word :: (decimal line.value.toInt).toList :: words (chomp line.tail) := by
    rw [chomped, words_append_of_blank line.lead_blank,
      words_append_of_word line.word_filled line.word_solid (apart_of_blank line.gap_filled line.gap_blank _),
      words_append_of_blank line.gap_blank, words_append_of_word digits_filled digits_solid tail_apart]
  have marked : marker <:+: chomp line.text := by
    rw [chomped]
    exact line.word_marked.trans ⟨line.lead, _, List.append_assoc ..⟩
  exact classify_words marked found (readInt64?_decimal line.value)

/-- A drain takes a line for what it is. -/
theorem lineKind_lineBytes (line : Item marker × LineEnd) :
    lineKind marker (lineBytes line) = line.1.kind := by
  obtain ⟨item, ending⟩ := line
  have ends : ∀ c ∈ ending.text, isLineEnd c := by cases ending <;> simp [LineEnd.text, isLineEnd]
  have read : lineText (lineBytes (item, ending)) = chomp item.text := by
    rw [lineText, lineBytes, Utf8.decodeLossy_encodeChars, String.toList_ofList]
    exact dropEndWhile_append_of_pos ends item.text
  rw [lineKind, read]
  cases item with
  | value line => exact line.classify_chomp
  | noise text unmarked single =>
    exact classify_eq_untagged.mpr fun marked => unmarked (marked.trans (dropEndWhile_isPrefix _ _).isInfix)

theorem lineValue?_lineBytes (line : Item marker × LineEnd) :
    lineValue? marker (lineBytes line) = line.1.value? := by
  have kind := lineKind_lineBytes line
  cases item : line.1 with
  | value v =>
    rw [item] at kind
    exact lineValue?_eq_some.mpr kind
  | noise text unmarked single =>
    rw [item] at kind
    exact lineValue?_eq_none.mpr fun v value => LineKind.noConfusion (kind.symm.trans value)

theorem Item.newline_not_mem (item : Item marker) : '\n' ∉ item.text := by
  cases item with
  | noise text unmarked single => exact single
  | value line =>
    have blank : isBlank '\n' = true := by decide
    have word : '\n' ∉ line.word := fun member => by simp [line.word_solid _ member] at blank
    have digits : '\n' ∉ (decimal line.value.toInt).toList := fun member => by
      simp [decimal_solid _ _ member] at blank
    have others := line.single
    simp only [List.mem_append, not_or] at others
    simp [Item.text, ValueLine.text, word, digits, others]

theorem isEnded_lineBytes (line : Item marker × LineEnd) : IsEnded (lineBytes line) := by
  obtain ⟨item, ending⟩ := line
  have inner := item.newline_not_mem
  obtain ⟨front, cut, outer⟩ : ∃ front, ending.text = front ++ ['\n'] ∧ '\n' ∉ front := by
    cases ending with
    | newline => exact ⟨[], rfl, by simp⟩
    | returned => exact ⟨['\r'], rfl, by decide⟩
  refine ⟨Utf8.encodeChars (item.text ++ front), ?_, ?_⟩
  · rw [Utf8.newline_mem_encodeChars, List.mem_append]
    exact not_or.mpr ⟨inner, outer⟩
  · rw [lineBytes, cut, ← List.append_assoc, Utf8.encodeChars_append]
    rfl

/-! ### All lines -/

theorem count_malformed (lines : List (Item marker × LineEnd)) :
    (lines.map fun line => line.1.kind).count .malformed = 0 := by
  rw [List.count_eq_zero, List.mem_map]
  rintro ⟨⟨item, ending⟩, -, malformed⟩
  cases item <;> cases malformed

theorem count_untagged (lines : List (Item marker × LineEnd)) :
    (lines.map fun line => line.1.kind).count .untagged =
      lines.countP fun line => line.1.value?.isNone := by
  rw [List.count, List.countP_map]
  refine List.countP_congr fun line _ => ?_
  cases item : line.1 <;> simp [item, Item.kind, Item.value?]

/-- A drain finds the values that an engine has written, in their order, and nothing else, whatever the
pieces in which its output arrives. -/
theorem drain_items (lines : List (Item marker × LineEnd)) (capacity : Nat) (events : List Event)
    (arrives : delivered events = (lines.map lineBytes).flatten) (whole : failure? events = none) :
    let values := lines.filterMap fun line => line.1.value?
    let noise := lines.countP fun line => line.1.value?.isNone
    let d := drain marker capacity events .empty
    d.queue = ⟨values, some .outputClosed⟩ ∧
    d.stats.values = values.length ∧ d.stats.untagged = noise ∧
    d.stats.malformed = 0 ∧ d.stats.dropped = 0 ∧ d.stats.lines = lines.length := by
  have found : streamLines events = lines.map lineBytes := by
    rw [streamLines, whole, arrives]
    exact linesOf_flatten (List.forall_mem_map.mpr fun line _ => isEnded_lineBytes line)
  have values : lineValues marker (streamLines events) = lines.filterMap fun line => line.1.value? := by
    rw [found, lineValues, List.filterMap_map]
    exact congrArg (lines.filterMap ·) (funext lineValue?_lineBytes)
  have kinds : (streamLines events).map (lineKind marker) = lines.map fun line => line.1.kind := by
    rw [found, List.map_map]
    exact List.map_congr_left fun line _ => lineKind_lineBytes line
  obtain ⟨count, malformed, untagged⟩ := drain_counts marker capacity events .empty
  obtain ⟨queue, taken, dropped⟩ := drain_open marker capacity events .empty rfl
  rw [values] at queue taken
  rw [kinds] at malformed untagged
  rw [found, List.length_map] at count
  rw [count_malformed] at malformed
  rw [count_untagged] at untagged
  exact ⟨queue, taken, untagged, malformed, dropped, count⟩

/-- The least value between blanks of all kinds, a line without the marker, and the greatest value. -/
def extremes : List (Item ['M'] × LineEnd) :=
  have marked {word : List Char} (found : occurs ['M'] word) : ['M'] <:+: word := occurs_iff.mp found
  [(.value ⟨['\t'], "xMy".toList, ['\u3000', ' '], Int64.minValue, "\r! M 7".toList,
      by simp; decide, by decide, by simp; decide, marked (by decide), by decide, by simp; decide,
      by simp [Apart]; decide, by decide⟩, .returned),
   (.noise "é 12".toList (by rw [← occurs_iff]; decide) (by decide), .newline),
   (.value ⟨[], ['M'], [' '], Int64.maxValue, [],
      by simp, by decide, by simp; decide, marked (by decide), by decide, by simp; decide,
      by simp [Apart], by decide⟩, .newline)]

/-- The lines arrive in two pieces, cut inside a character. -/
def extremeEvents : List Event :=
  let bytes := (extremes.map lineBytes).flatten
  [.chunk (bytes.take 5), .interrupt, .chunk (bytes.drop 5)]

theorem drain_items_extremes :
    delivered extremeEvents = (extremes.map lineBytes).flatten ∧ failure? extremeEvents = none ∧
    (drain ['M'] 3 extremeEvents .empty).queue =
      ⟨[Int64.minValue, Int64.maxValue], some .outputClosed⟩ ∧
    (drain ['M'] 3 extremeEvents .empty).stats.untagged = 1 := by
  have arrives : delivered extremeEvents = (extremes.map lineBytes).flatten := by
    simp [extremeEvents, delivered]
  have whole : failure? extremeEvents = none := by simp [extremeEvents, failure?]
  obtain ⟨queue, -, untagged, -⟩ := drain_items extremes 3 extremeEvents arrives whole
  exact ⟨arrives, whole, queue, untagged⟩

end PartyBridge.EngineOutput
