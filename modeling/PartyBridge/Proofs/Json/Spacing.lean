import PartyBridge.Proofs.Json.Readings

/-!
# Blanks between tokens

A text that is read as a value is read as the same value without the blanks outside of its strings
(`parse_tighten`). So two texts that differ in such blanks only, and are both read, are read alike.
-/

namespace PartyBridge.Json
open Text

theorem tight_dropWhile (text : List Char) :
    tight .outside (text.dropWhile isJsonBlank) = tight .outside text := by
  induction text with
  | nil => rfl
  | cons ch text ih =>
    rw [List.dropWhile_cons]
    split
    · next blank => rw [ih, tight, if_pos blank]
    · rfl

theorem dropWhile_tight (text : List Char) :
    (tight .outside text).dropWhile isJsonBlank = tight .outside text := by
  induction text with
  | nil => rfl
  | cons ch text ih =>
    rw [tight]
    split
    · exact ih
    · next solid => rw [List.dropWhile_cons, if_neg solid]

theorem tight_tight (place : Place) (text : List Char) : tight place (tight place text) = tight place text := by
  induction text generalizing place with
  | nil => cases place <;> rfl
  | cons ch text ih =>
    cases place with
    | outside =>
      rw [tight]
      split
      · exact ih _
      · next solid => rw [tight, if_neg solid, ih]
    | inside => rw [tight, tight, ih]
    | escaped => rw [tight, tight, ih]

theorem tight_solid {text : List Char} (plain : ∀ ch ∈ text, isJsonBlank ch = false ∧ ch ≠ '\x22')
    (more : List Char) :
    tight .outside (text ++ more) = text ++ tight .outside more := by
  induction text with
  | nil => rfl
  | cons ch text ih =>
    obtain ⟨⟨solid, unquoted⟩, plain⟩ := List.forall_mem_cons.mp plain
    rw [List.cons_append, tight, if_neg (by simp [solid]), if_neg unquoted, ih plain, List.cons_append]

theorem numeral_solid {ch : Char} (numeral : isNumeral ch = true) : isJsonBlank ch = false ∧ ch ≠ '\x22' := by
  have other : ∀ l, isNumeral l = false → ch ≠ l := by
    rintro l no rfl
    rw [no] at numeral
    cases numeral
  refine ⟨?_, other _ (by decide)⟩
  simp [isJsonBlank, other ' ' (by decide), other '\n' (by decide), other '\t' (by decide),
    other '\r' (by decide)]

/-- The second cursor stands before the text of the first without its blanks. -/
def Tightened (c d : Cursor) : Prop :=
  d.rest = tight .outside c.rest

section Tightened
variable {c c' d : Cursor} {ch : Char} {rest : List Char}

theorem Tightened.skipBlanks (same : Tightened c d) : Tightened c.skipBlanks d.skipBlanks := by
  unfold Tightened at *
  rw [skipBlanks_rest, skipBlanks_rest, same, dropWhile_tight, tight_dropWhile]

theorem skipBlanks_head (here : c.skipBlanks.rest = ch :: rest) : isJsonBlank ch = false := by
  have := List.head?_dropWhile_not isJsonBlank c.rest
  rw [← skipBlanks_rest, here] at this
  exact this

theorem Tightened.head (same : Tightened c d) (here : c.skipBlanks.rest = ch :: rest) :
    d.skipBlanks.rest = ch :: tight (if ch = '\x22' then .inside else .outside) rest := by
  rw [same.skipBlanks, here, tight, if_neg (by simp [skipBlanks_head here])]

theorem Tightened.next (same : Tightened c d) (here : c.skipBlanks.rest = ch :: rest) (unquoted : ch ≠ '\x22') :
    Tightened c.skipBlanks.next d.skipBlanks.next := by
  have there := same.head here
  rw [if_neg unquoted] at there
  unfold Tightened
  rw [next_rest there, next_rest here]

theorem Tightened.quote (same : Tightened c d) (here : c.skipBlanks.rest = '\x22' :: rest) :
    d.skipBlanks.next.rest = tight .inside c.skipBlanks.next.rest := by
  rw [next_rest (same.head here), next_rest here, if_pos rfl]

theorem readString_tight {s : String} (read : readString c = .ok (s, c'))
    (same : d.rest = tight .inside c.rest) :
    ∃ d', readString d = .ok (s, d') ∧ Tightened c' d' := by
  obtain ⟨taken, here, -, again, kept⟩ := readString_extent read
  rw [here, kept] at same
  exact again same

theorem readIdent_tight {letters : List Char} (plain : ∀ l ∈ letters, isJsonBlank l = false ∧ l ≠ '\x22')
    (read : readIdent letters c = .ok c') (same : Tightened c d) :
    ∃ d', readIdent letters d = .ok d' ∧ Tightened c' d' := by
  unfold Tightened at same
  rw [readIdent_rest read, tight_solid plain] at same
  exact readIdent_letters same

theorem readNumber_tight {negative : Bool} {v : Value} (read : readNumber negative c = .ok (v, c'))
    (ends : Stops (tight .outside c'.rest)) (same : Tightened c d) :
    ∃ d', readNumber negative d = .ok (v, d') ∧ Tightened c' d' := by
  obtain ⟨run, more, here, numerals, stops⟩ := exists_run c.rest
  obtain ⟨-, left, -, within, behind, -⟩ := readNumber_agrees stops stops here here negative v c' read
  -- what is left of the run would go on the number
  have none : left = [] := by
    cases left with
    | nil => rfl
    | cons ch left =>
      have numeral := numerals ch (List.mem_of_mem_tail (within.subset (List.mem_cons_self ..)))
      have solid := numeral_solid numeral
      rw [behind, List.cons_append, tight, if_neg (by simp [solid.1])] at ends
      rw [ends ch rfl] at numeral
      cases numeral
  subst none
  rw [List.nil_append] at behind
  unfold Tightened at same
  rw [here, tight_solid fun ch member => numeral_solid (numerals ch member)] at same
  rw [behind] at ends
  obtain ⟨-, left, d', -, again, other, there⟩ := readNumber_agrees stops ends here same negative v c' read
  have none : left = [] := by simpa [behind] using again
  subst none
  refine ⟨d', other, ?_⟩
  unfold Tightened
  rw [there, behind, List.nil_append]

theorem namedValues_plain {letters : List Char} {v : Value} (name : (ch, letters, v) ∈ namedValues) :
    ch ≠ '\x22' ∧ ∀ l ∈ letters, isJsonBlank l = false ∧ l ≠ '\x22' := by
  rcases named_cases name with ⟨rfl, rfl, rfl⟩ | ⟨rfl, rfl, rfl⟩ | ⟨rfl, rfl, rfl⟩
  all_goals simp [isJsonBlank]

theorem leaf_tight {v : Value} (leaf : Leaf c.skipBlanks v c') (ends : Stops (tight .outside c'.rest))
    (same : Tightened c d) : ∃ d', Leaf d.skipBlanks v d' ∧ Tightened c' d' := by
  cases leaf with
  | named name here read =>
    obtain ⟨unquoted, plain⟩ := namedValues_plain name
    obtain ⟨d', read, behind⟩ := readIdent_tight plain read (same.next here unquoted)
    exact ⟨d', .named name (same.head here) read, behind⟩
  | negative here read =>
    obtain ⟨d', read, behind⟩ := readNumber_tight read ends (same.next here (by decide))
    exact ⟨d', .negative (same.head here) read, behind⟩
  | number here digit read =>
    obtain ⟨d', read, behind⟩ := readNumber_tight read ends same.skipBlanks
    exact ⟨d', .number (same.head here) digit read, behind⟩
  | string here read =>
    obtain ⟨d', read, behind⟩ := readString_tight read (same.quote here)
    exact ⟨d', .string (same.head here) read, behind⟩

theorem nextItem_tight {first : Bool} (found : nextItem first c = .ok (.item c')) (same : Tightened c d) :
    ∃ d', nextItem first d = .ok (.item d') ∧ Tightened c' d' := by
  cases nextItem_iff.mp found with
  | opening here other => exact ⟨_, nextItem_iff.mpr (.opening (same.head here) other), same.skipBlanks⟩
  | further comma here other =>
    have next := same.next comma (by decide)
    exact ⟨_, nextItem_iff.mpr (.further (same.head comma) (next.head here) other), next.skipBlanks⟩

theorem nextItem_done_tight {first : Bool} (found : nextItem first c = .ok (.done c')) (same : Tightened c d) :
    ∃ d', nextItem first d = .ok (.done d') ∧ Tightened c'.next d'.next := by
  cases nextItem_iff.mp found with
  | closed here => exact ⟨_, nextItem_iff.mpr (.closed (same.head here)), same.next here (by decide)⟩

theorem nextKey_tight {first : Bool} {key : String} (found : nextKey first c = .ok (some key, c'))
    (same : Tightened c d) :
    ∃ d', nextKey first d = .ok (some key, d') ∧ Tightened c' d' := by
  cases nextKey_iff.mp found with
  | opening here read =>
    obtain ⟨d', read, behind⟩ := readString_tight read (same.quote here)
    exact ⟨d', nextKey_iff.mpr (.opening (same.head here) read), behind⟩
  | further comma here read =>
    have next := same.next comma (by decide)
    obtain ⟨d', read, behind⟩ := readString_tight read (next.quote here)
    exact ⟨d', nextKey_iff.mpr (.further (same.head comma) (next.head here) read), behind⟩

theorem nextKey_none_tight {first : Bool} (found : nextKey first c = .ok (none, c')) (same : Tightened c d) :
    ∃ d', nextKey first d = .ok (none, d') ∧ Tightened c'.next d'.next := by
  cases nextKey_iff.mp found with
  | closed here => exact ⟨_, nextKey_iff.mpr (.closed (same.head here)), same.next here (by decide)⟩

theorem readColon_tight (read : readColon c = .ok c') (same : Tightened c d) :
    ∃ d', readColon d = .ok d' ∧ Tightened c' d' := by
  obtain ⟨rest, here, rfl⟩ := readColon_iff.mp read
  exact ⟨_, readColon_iff.mpr ⟨_, same.head here, rfl⟩, same.next here (by decide)⟩

theorem stops_at (here : c.skipBlanks.rest = ch :: rest) (other : isNumeral ch = false) :
    Stops (tight .outside c.rest) := by
  rw [← tight_dropWhile, ← skipBlanks_rest, here, tight, if_neg (by simp [skipBlanks_head here])]
  rintro first ⟨⟩
  exact other

theorem nextItem_stops {next : Upcoming} (found : nextItem false c = .ok next) :
    Stops (tight .outside c.rest) := by
  cases nextItem_iff.mp found with
  | closed here => exact stops_at here (by decide)
  | further comma here other => exact stops_at comma (by decide)

theorem nextKey_stops {key : Option String} (found : nextKey false c = .ok (key, c')) :
    Stops (tight .outside c.rest) := by
  cases nextKey_iff.mp found with
  | closed here => exact stops_at here (by decide)
  | further comma here other => exact stops_at comma (by decide)

end Tightened

/-- Without the blanks the same value is read, if no number runs into what follows the value. -/
theorem readsValue_tight {fuel depth : Nat} {c c' d : Cursor} {v : Value}
    (read : readValueWith fuel depth c = .ok (v, c')) (same : Tightened c d)
    (ends : Stops (tight .outside c'.rest)) :
    ∃ d', ReadsValue depth d v d' ∧ Tightened c' d' := by
  refine (reading_induction (V := fun depth c v c' => ∀ {d}, Tightened c d → Stops (tight .outside c'.rest) →
      ∃ d', ReadsValue depth d v d' ∧ Tightened c' d')
    (I := fun depth first c items c' => (first = false → Stops (tight .outside c.rest)) ∧
      ∀ {d}, Tightened c d → ∃ d', ReadsItems depth first d items d' ∧ Tightened c' d')
    (M := fun depth first c members c' => (first = false → Stops (tight .outside c.rest)) ∧
      ∀ {d}, Tightened c d → ∃ d', ReadsMembers depth first d members d' ∧ Tightened c' d')
    ?leaf ?list ?object ?listEnd ?item ?objectEnd ?member fuel).1 read same ends
  case leaf =>
    intro depth c v c' leaf d same ends
    obtain ⟨d', leaf, behind⟩ := leaf_tight leaf ends same
    exact ⟨d', .leaf leaf, behind⟩
  case list =>
    rintro depth c rest items c' here ⟨-, inner⟩ d same -
    obtain ⟨d', reads, behind⟩ := inner (same.next here (by decide))
    exact ⟨d', .list (same.head here) reads, behind⟩
  case object =>
    rintro depth c rest items c' here ⟨-, inner⟩ d same -
    obtain ⟨d', reads, behind⟩ := inner (same.next here (by decide))
    exact ⟨d', .object (same.head here) reads, behind⟩
  case listEnd =>
    refine fun {depth first c c'} found => ⟨?_, fun {d} same => ?_⟩
    · rintro rfl
      exact nextItem_stops found
    · obtain ⟨d', found, behind⟩ := nextItem_done_tight found same
      exact ⟨_, .nil found, behind⟩
  case item =>
    rintro depth first c start v behind items c' found value ⟨ends, others⟩
    refine ⟨?_, fun {d} same => ?_⟩
    · rintro rfl
      exact nextItem_stops found
    · obtain ⟨d, found, same⟩ := nextItem_tight found same
      obtain ⟨d, value, same⟩ := value same (ends rfl)
      obtain ⟨d, others, same⟩ := others same
      exact ⟨d, .cons found value others, same⟩
  case objectEnd =>
    refine fun {depth first c c'} found => ⟨?_, fun {d} same => ?_⟩
    · rintro rfl
      exact nextKey_stops found
    · obtain ⟨d', found, behind⟩ := nextKey_none_tight found same
      exact ⟨_, .nil found, behind⟩
  case member =>
    rintro depth first c key colon start v behind members c' found marked value ⟨ends, others⟩
    refine ⟨?_, fun {d} same => ?_⟩
    · rintro rfl
      exact nextKey_stops found
    · obtain ⟨d, found, same⟩ := nextKey_tight found same
      obtain ⟨d, marked, same⟩ := readColon_tight marked same
      obtain ⟨d, value, same⟩ := value same (ends rfl)
      obtain ⟨d, others, same⟩ := others same
      exact ⟨d, .cons found marked value others, same⟩

/-- The text without the blanks outside of its strings. -/
def tighten (text : String) : String :=
  String.ofList (tight .outside text.toList)

theorem tighten_tighten (text : String) : tighten (tighten text) = tighten text := by
  rw [tighten, tighten, String.toList_ofList, tight_tight]

theorem expectEnd_ok {c : Cursor} : expectEnd c = .ok () ↔ c.skipBlanks.rest = [] := by
  simp [expectEnd]

/-- A text that is read is read as the same value without its blanks. -/
theorem parse_tighten {text : String} {v : Value} (read : parse text = .ok v) :
    parse (tighten text) = .ok v := by
  unfold parse at read
  split at read
  · cases read
  · next v c' whole =>
    obtain ⟨⟨⟩, ended, rfl⟩ := map_eq_ok read
    rw [expectEnd_ok] at ended
    have same : Tightened (Cursor.ofText text) (Cursor.ofText (tighten text)) := by
      simp [Tightened, Cursor.ofText, tighten]
    have nothing : tight .outside c'.rest = [] := by rw [← tight_dropWhile, ← skipBlanks_rest, ended, tight]
    obtain ⟨d', reads, behind⟩ := readsValue_tight whole same (by simp [nothing, Stops])
    have again : readValue 0 (Cursor.ofText (tighten text)) = .ok (v, d') := reads.read (by omega)
    have ended : expectEnd d' = .ok () := by
      rw [expectEnd_ok, skipBlanks_rest, behind, nothing, List.dropWhile_nil]
    rw [parse, again]
    simp [ended, Except.map]

end PartyBridge.Json
