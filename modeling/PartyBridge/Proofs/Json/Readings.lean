import Mathlib.Logic.Basic
import PartyBridge.Proofs.Json.Numerals
import PartyBridge.Proofs.Json.Strings

/-!
# Readings of values

What the reader of values accepts is a leaf, a list or an object, and `reading_induction` proves something of
every reading from what holds of these. Each part takes at least one character, so what is read with some fuel
is read with two rounds for each character and with any more: `ReadsValue`, `ReadsItems` and `ReadsMembers` are
readings without their fuel.
-/

namespace PartyBridge.Json
open Text

section Cursors
variable {c c' : Cursor} {ch : Char} {rest : List Char}

theorem skipBlanks_rest (c : Cursor) : c.skipBlanks.rest = c.rest.dropWhile isJsonBlank := by
  obtain ⟨rest, line, column⟩ := c
  show (skipBlanksFrom rest line column).rest = rest.dropWhile isJsonBlank
  induction rest generalizing line column with
  | nil => rfl
  | cons ch rest ih =>
    rw [skipBlanksFrom, List.dropWhile_cons]
    split
    · split
      · exact ih _ _
      · exact ih _ _
    · rfl

theorem skipBlanks_le (c : Cursor) : c.skipBlanks.rest.length ≤ c.rest.length := by
  rw [skipBlanks_rest]
  exact (List.dropWhile_sublist isJsonBlank).length_le

theorem next_shorter (here : c.rest = ch :: rest) : c.next.rest.length < c.rest.length := by
  rw [next_rest here, here]
  exact Nat.lt_succ_self _

end Cursors

/-! ### Leaves -/

/-- The values with a name: its first letter, the others, the value. -/
def namedValues : List (Char × List Char × Value) :=
  [('n', ['u', 'l', 'l'], .null), ('t', ['r', 'u', 'e'], .bool true), ('f', ['a', 'l', 's', 'e'], .bool false)]

theorem named_cases {ch : Char} {letters : List Char} {v : Value} (name : (ch, letters, v) ∈ namedValues) :
    ch = 'n' ∧ letters = ['u', 'l', 'l'] ∧ v = .null ∨
    ch = 't' ∧ letters = ['r', 'u', 'e'] ∧ v = .bool true ∨
    ch = 'f' ∧ letters = ['a', 'l', 's', 'e'] ∧ v = .bool false := by
  simpa [namedValues] using name

/-- A value that holds no other is read, from its first character on. -/
inductive Leaf (c : Cursor) : Value → Cursor → Prop
  | named {ch rest letters v c'} (name : (ch, letters, v) ∈ namedValues) (here : c.rest = ch :: rest)
      (read : readIdent letters c.next = .ok c') : Leaf c v c'
  | negative {rest v c'} (here : c.rest = '-' :: rest) (read : readNumber true c.next = .ok (v, c')) :
      Leaf c v c'
  | number {ch rest v c'} (here : c.rest = ch :: rest) (digit : (digit? ch).isSome)
      (read : readNumber false c = .ok (v, c')) : Leaf c v c'
  | string {rest s c'} (here : c.rest = '\x22' :: rest) (read : readString c.next = .ok (s, c')) :
      Leaf c (.str s) c'

/-- What a round of the reader can accept: a leaf, or a list or an object with the fuel that is left. -/
inductive Reading (fuel : Nat) : Nat → Cursor → Value → Cursor → Prop
  | leaf {depth c v c'} (leaf : Leaf c.skipBlanks v c') : Reading fuel depth c v c'
  | list {depth c rest items c'} (here : c.skipBlanks.rest = '[' :: rest)
      (read : readItems fuel (depth + 1) true [] c.skipBlanks.next = .ok (items, c')) :
      Reading fuel (depth + 2) c (.arr items) c'
  | object {depth c rest members c'} (here : c.skipBlanks.rest = '\x7b' :: rest)
      (read : readMembers fuel (depth + 1) true [] c.skipBlanks.next = .ok (members, c')) :
      Reading fuel (depth + 2) c (.obj members) c'

theorem map_eq_ok {ε α β : Type} {result : Except ε α} {f : α → β} {b : β} (mapped : result.map f = .ok b) :
    ∃ a, result = .ok a ∧ f a = b := by
  cases result with
  | error fault => cases mapped
  | ok a => exact ⟨a, rfl, Except.ok.inj mapped⟩

section Rounds
variable {fuel depth : Nat} {c c' : Cursor} {v : Value}

theorem reading_of_readValueWith (read : readValueWith (fuel + 1) depth c = .ok (v, c')) :
    Reading fuel depth c v c' := by
  rw [readValueWith] at read
  cases here : c.skipBlanks.rest with
  | nil => simp [here] at read
  | cons ch rest =>
    have named : ∀ {letter letters value}, (letter, letters, value) ∈ namedValues → ch = letter →
        (readIdent letters c.skipBlanks.next).map (fun c => (value, c)) = .ok (v, c') →
        Reading fuel depth c v c' := by
      rintro letter letters value name rfl read
      obtain ⟨c', spelled, ⟨⟩⟩ := map_eq_ok read
      exact .leaf (.named name here spelled)
    simp only [here] at read
    iterate 3
      rcases ite_eq_iff.mp read with ⟨first, read⟩ | ⟨-, read⟩
      · exact named (by simp [namedValues]) first read
    rcases ite_eq_iff.mp read with ⟨minus, read⟩ | ⟨-, read⟩
    · exact .leaf (.negative (minus ▸ here) read)
    rcases ite_eq_iff.mp read with ⟨digit, read⟩ | ⟨-, read⟩
    · exact .leaf (.number here digit read)
    rcases ite_eq_iff.mp read with ⟨quote, read⟩ | ⟨-, read⟩
    · obtain ⟨⟨s, c'⟩, string, ⟨⟩⟩ := map_eq_ok read
      exact .leaf (.string (quote ▸ here) string)
    rcases ite_eq_iff.mp read with ⟨bracket, read⟩ | ⟨-, read⟩
    · rcases ite_eq_iff.mp read with ⟨-, deep⟩ | ⟨shallow, read⟩
      · cases deep
      · obtain ⟨⟨items, c'⟩, inner, ⟨⟩⟩ := map_eq_ok read
        obtain ⟨depth, rfl⟩ : ∃ outer, depth = outer + 2 := ⟨depth - 2, by omega⟩
        exact .list (bracket ▸ here) inner
    rcases ite_eq_iff.mp read with ⟨brace, read⟩ | ⟨-, read⟩
    · rcases ite_eq_iff.mp read with ⟨-, deep⟩ | ⟨shallow, read⟩
      · cases deep
      · obtain ⟨⟨members, c'⟩, inner, ⟨⟩⟩ := map_eq_ok read
        obtain ⟨depth, rfl⟩ : ∃ outer, depth = outer + 2 := ⟨depth - 2, by omega⟩
        exact .object (brace ▸ here) inner
    · cases read

theorem readValueWith_of_reading (reading : Reading fuel depth c v c') :
    readValueWith (fuel + 1) depth c = .ok (v, c') := by
  rw [readValueWith]
  cases reading with
  | leaf leaf =>
    cases leaf with
    | named name here read =>
      rcases named_cases name with ⟨rfl, rfl, rfl⟩ | ⟨rfl, rfl, rfl⟩ | ⟨rfl, rfl, rfl⟩
      all_goals simp [here, read, Except.map]
    | negative here read => simp [here, read]
    | @number ch rest v c' here digit read =>
      have other : ∀ l, digit? l = none → ch ≠ l := by
        rintro l none rfl
        simp [none] at digit
      simp [here, other 'n' rfl, other 't' rfl, other 'f' rfl, other '-' rfl, digit, read]
    | string here read =>
      have digit : (digit? '\x22').isSome = false := by decide
      simp [here, digit, read, Except.map]
  | list here read =>
    have digit : (digit? '[').isSome = false := by decide
    simp [here, digit, read, Except.map]
  | object here read =>
    have digit : (digit? '\x7b').isSome = false := by decide
    simp [here, digit, read, Except.map]

end Rounds

/-! ### Items and keys -/

inductive ItemFound : Bool → Cursor → Upcoming → Prop
  | closed {first c rest} (here : c.skipBlanks.rest = ']' :: rest) : ItemFound first c (.done c.skipBlanks)
  | opening {c ch rest} (here : c.skipBlanks.rest = ch :: rest) (other : ch ≠ ']') :
      ItemFound true c (.item c.skipBlanks)
  | further {c rest ch more} (comma : c.skipBlanks.rest = ',' :: rest)
      (here : c.skipBlanks.next.skipBlanks.rest = ch :: more) (other : ch ≠ ']') :
      ItemFound false c (.item c.skipBlanks.next.skipBlanks)

theorem nextItem_iff {first : Bool} {c : Cursor} {next : Upcoming} :
    nextItem first c = .ok next ↔ ItemFound first c next := by
  constructor
  · intro found
    unfold nextItem at found
    dsimp only at found
    split at found
    · cases found
    · next here =>
      cases found
      exact .closed here
    · next ch rest other here =>
      split at found
      · next opening =>
        cases found
        exact opening ▸ .opening here other
      · next further =>
        split at found
        · next comma =>
          subst comma
          split at found
          · cases found
          · cases found
          · next none other =>
            cases found
            obtain ⟨ch, more, there⟩ := List.exists_cons_of_ne_nil none
            have solid : ch ≠ ']' := fun bracket => other more (bracket ▸ there)
            exact Bool.eq_false_iff.mpr further ▸ .further here there solid
        · cases found
  · intro found
    cases found with
    | closed here => simp [nextItem, here]
    | opening here other => simp [nextItem, here]
    | further comma here other => simp [nextItem, comma, here, other]

inductive KeyFound : Bool → Cursor → Option String → Cursor → Prop
  | closed {first c rest} (here : c.skipBlanks.rest = '\x7d' :: rest) : KeyFound first c none c.skipBlanks
  | opening {c rest key c'} (here : c.skipBlanks.rest = '\x22' :: rest)
      (read : readString c.skipBlanks.next = .ok (key, c')) : KeyFound true c (some key) c'
  | further {c rest more key c'} (comma : c.skipBlanks.rest = ',' :: rest)
      (here : c.skipBlanks.next.skipBlanks.rest = '\x22' :: more)
      (read : readString c.skipBlanks.next.skipBlanks.next = .ok (key, c')) : KeyFound false c (some key) c'

theorem readKey_eq_ok {c c' : Cursor} {key : String} (read : readKey c = .ok (key, c')) :
    ∃ rest, c.rest = '\x22' :: rest ∧ readString c.next = .ok (key, c') := by
  unfold readKey at read
  split at read
  · cases read
  · next ch rest here =>
    split at read
    · next quote => exact ⟨rest, quote ▸ here, read⟩
    · split at read
      · cases read
      · cases read

theorem nextKey_iff {first : Bool} {c c' : Cursor} {key : Option String} :
    nextKey first c = .ok (key, c') ↔ KeyFound first c key c' := by
  constructor
  · intro found
    unfold nextKey at found
    dsimp only at found
    split at found
    · cases found
    · next ch rest here =>
      split at found
      · next brace =>
        cases found
        exact .closed (brace ▸ here)
      · split at found
        · next opening =>
          obtain ⟨⟨key, c'⟩, read, ⟨⟩⟩ := map_eq_ok found
          obtain ⟨rest, here, read⟩ := readKey_eq_ok read
          exact opening ▸ .opening here read
        · next further =>
          split at found
          · next comma =>
            obtain ⟨⟨key, c'⟩, read, ⟨⟩⟩ := map_eq_ok found
            obtain ⟨more, there, read⟩ := readKey_eq_ok read
            exact Bool.eq_false_iff.mpr further ▸ .further (comma ▸ here) there read
          · cases found
  · intro found
    cases found with
    | closed here => simp [nextKey, here]
    | opening here read => simp [nextKey, readKey, here, read, Except.map]
    | further comma here read => simp [nextKey, readKey, comma, here, read, Except.map]

theorem readColon_iff {c c' : Cursor} :
    readColon c = .ok c' ↔ ∃ rest, c.skipBlanks.rest = ':' :: rest ∧ c' = c.skipBlanks.next := by
  constructor
  · intro read
    unfold readColon at read
    dsimp only at read
    split at read
    · next rest here =>
      cases read
      exact ⟨rest, here, rfl⟩
    · cases read
    · cases read
  · rintro ⟨rest, here, rfl⟩
    simp [readColon, here]

/-! ### Induction on a reading -/

section Induction
variable {V : Nat → Cursor → Value → Cursor → Prop} {I : Nat → Bool → Cursor → List Value → Cursor → Prop}
variable {M : Nat → Bool → Cursor → List (String × Value) → Cursor → Prop}

/-- What holds of leaves, and of lists and objects when it holds of what they hold, holds of all that is read. -/
theorem reading_induction
    (leaf : ∀ {depth c v c'}, Leaf c.skipBlanks v c' → V depth c v c')
    (list : ∀ {depth c rest items c'}, c.skipBlanks.rest = '[' :: rest →
      I (depth + 1) true c.skipBlanks.next items c' → V (depth + 2) c (.arr items) c')
    (object : ∀ {depth c rest members c'}, c.skipBlanks.rest = '\x7b' :: rest →
      M (depth + 1) true c.skipBlanks.next members c' → V (depth + 2) c (.obj members) c')
    (listEnd : ∀ {depth first c c'}, nextItem first c = .ok (.done c') → I depth first c [] c'.next)
    (item : ∀ {depth first c start v behind items c'}, nextItem first c = .ok (.item start) →
      V depth start v behind → I depth false behind items c' → I depth first c (v :: items) c')
    (objectEnd : ∀ {depth first c c'}, nextKey first c = .ok (none, c') → M depth first c [] c'.next)
    (member : ∀ {depth first c key colon start v behind members c'}, nextKey first c = .ok (some key, colon) →
      readColon colon = .ok start → V depth start v behind → M depth false behind members c' →
      M depth first c ((key, v) :: members) c')
    (fuel : Nat) :
    (∀ {depth c v c'}, readValueWith fuel depth c = .ok (v, c') → V depth c v c') ∧
    (∀ {depth first done c all c'}, readItems fuel depth first done c = .ok (all, c') →
      ∃ items, all = done.reverse ++ items ∧ I depth first c items c') ∧
    (∀ {depth first done c all c'}, readMembers fuel depth first done c = .ok (all, c') →
      ∃ members, all = done.reverse ++ members ∧ M depth first c members c') := by
  induction fuel with
  | zero => exact ⟨nofun, nofun, nofun⟩
  | succ fuel ih =>
    obtain ⟨values, lists, objects⟩ := ih
    refine ⟨fun read => ?_, fun {_ _ done _ _ _} read => ?_, fun {_ _ done _ _ _} read => ?_⟩
    · cases reading_of_readValueWith read with
      | leaf is => exact leaf is
      | list here inner =>
        obtain ⟨items, rfl, holds⟩ := lists inner
        exact list here holds
      | object here inner =>
        obtain ⟨members, rfl, holds⟩ := objects inner
        exact object here holds
    · rw [readItems] at read
      split at read
      · cases read
      · next next =>
        cases read
        exact ⟨[], (List.append_nil _).symm, listEnd next⟩
      · next next =>
        split at read
        · cases read
        · next value =>
          obtain ⟨items, rfl, holds⟩ := lists read
          exact ⟨_, by simp, item next (values value) holds⟩
    · rw [readMembers] at read
      split at read
      · cases read
      · next next =>
        cases read
        exact ⟨[], (List.append_nil _).symm, objectEnd next⟩
      · next next =>
        split at read
        · cases read
        · next colon =>
          split at read
          · cases read
          · next value =>
            obtain ⟨members, rfl, holds⟩ := objects read
            exact ⟨_, by simp, member next colon (values value) holds⟩

end Induction

/-! ### The length of a reading -/

section Lengths
variable {c c' : Cursor}

theorem readIdent_rest {letters : List Char} (read : readIdent letters c = .ok c') :
    c.rest = letters ++ c'.rest := by
  induction letters generalizing c with
  | nil =>
    cases read
    rfl
  | cons letter letters ih =>
    rw [readIdent] at read
    split at read
    · cases read
    · next here =>
      split at read
      · next same => rw [here, same, ← next_rest here, ih read, List.cons_append]
      · cases read

theorem readIdent_letters {letters more : List Char} (here : c.rest = letters ++ more) :
    ∃ c', readIdent letters c = .ok c' ∧ c'.rest = more := by
  induction letters generalizing c with
  | nil => exact ⟨c, rfl, here⟩
  | cons letter letters ih =>
    obtain ⟨c', read, left⟩ := ih (next_rest here)
    exact ⟨c', by simp [readIdent, here, read], left⟩

theorem readString_shorter {s : String} (read : readString c = .ok (s, c')) :
    c'.rest.length < c.rest.length := by
  obtain ⟨taken, here, filled, -⟩ := readString_extent read
  have := List.length_pos_iff.mpr filled
  rw [here, List.length_append]
  omega

theorem readNumber_spec {negative : Bool} {v : Value} (read : readNumber negative c = .ok (v, c')) :
    v.Bare ∧ c'.rest.length < c.rest.length := by
  obtain ⟨run, more, here, -, stops⟩ := exists_run c.rest
  have filled := List.length_pos_iff.mpr (readNumber_ne_nil stops here read)
  obtain ⟨bare, left, d, shorter, there, -⟩ := readNumber_agrees stops stops here here negative v c' read
  refine ⟨bare, ?_⟩
  have := shorter.length_le
  rw [List.length_tail] at this
  rw [there, here, List.length_append, List.length_append]
  omega

theorem leaf_shorter {v : Value} (leaf : Leaf c v c') : c'.rest.length < c.rest.length := by
  cases leaf with
  | named name here read =>
    have := next_shorter here
    rw [readIdent_rest read, List.length_append] at this
    omega
  | negative here read => exact Nat.lt_trans (readNumber_spec read).2 (next_shorter here)
  | number here digit read => exact (readNumber_spec read).2
  | string here read => exact Nat.lt_trans (readString_shorter read) (next_shorter here)

theorem nextItem_le {first : Bool} (found : nextItem first c = .ok (.item c')) :
    c'.rest.length ≤ c.rest.length := by
  have blanks := skipBlanks_le c
  cases nextItem_iff.mp found with
  | opening => exact blanks
  | further comma here other =>
    have := skipBlanks_le c.skipBlanks.next
    have := next_shorter comma
    omega

theorem nextItem_done_shorter {first : Bool} (found : nextItem first c = .ok (.done c')) :
    c'.next.rest.length < c.rest.length := by
  cases nextItem_iff.mp found with
  | closed here => exact Nat.lt_of_lt_of_le (next_shorter here) (skipBlanks_le c)

theorem nextKey_shorter {first : Bool} {key : String} (found : nextKey first c = .ok (some key, c')) :
    c'.rest.length < c.rest.length := by
  have blanks := skipBlanks_le c
  cases nextKey_iff.mp found with
  | opening here read =>
    have := next_shorter here
    have := readString_shorter read
    omega
  | further comma here read =>
    have := next_shorter comma
    have := skipBlanks_le c.skipBlanks.next
    have := next_shorter here
    have := readString_shorter read
    omega

theorem nextKey_none_shorter {first : Bool} (found : nextKey first c = .ok (none, c')) :
    c'.next.rest.length < c.rest.length := by
  cases nextKey_iff.mp found with
  | closed here => exact Nat.lt_of_lt_of_le (next_shorter here) (skipBlanks_le c)

theorem readColon_shorter (read : readColon c = .ok c') : c'.rest.length < c.rest.length := by
  obtain ⟨rest, here, rfl⟩ := readColon_iff.mp read
  exact Nat.lt_of_lt_of_le (next_shorter here) (skipBlanks_le c)

/-- A leaf that is no string has another first character. -/
theorem leaf_cases {v : Value} (leaf : Leaf c v c') :
    (∃ ch rest, c.rest = ch :: rest ∧ ch ≠ '\x22' ∧ v.Bare) ∨
    ∃ rest s, c.rest = '\x22' :: rest ∧ v = .str s ∧ readString c.next = .ok (s, c') := by
  cases leaf with
  | named name here read =>
    refine .inl ⟨_, _, here, ?_⟩
    rcases named_cases name with ⟨rfl, rfl, rfl⟩ | ⟨rfl, rfl, rfl⟩ | ⟨rfl, rfl, rfl⟩
    all_goals exact ⟨by decide, trivial⟩
  | negative here read => exact .inl ⟨_, _, here, by decide, (readNumber_spec read).1⟩
  | number here digit read =>
    refine .inl ⟨_, _, here, ?_, (readNumber_spec read).1⟩
    rintro rfl
    cases digit
  | string here read => exact .inr ⟨_, _, here, rfl, read⟩

end Lengths

/-! ### Readings with enough fuel -/

/-- The value is read, with two rounds for each character and with any more, and takes some of the text. -/
structure ReadsValue (depth : Nat) (c : Cursor) (v : Value) (c' : Cursor) : Prop where
  shorter : c'.rest.length < c.rest.length
  read : ∀ {fuel}, 2 * c.rest.length < fuel → readValueWith fuel depth c = .ok (v, c')

structure ReadsItems (depth : Nat) (first : Bool) (c : Cursor) (items : List Value) (c' : Cursor) : Prop where
  shorter : c'.rest.length < c.rest.length
  read : ∀ {fuel} (done), 2 * c.rest.length + 1 < fuel →
    readItems fuel depth first done c = .ok (done.reverse ++ items, c')

structure ReadsMembers (depth : Nat) (first : Bool) (c : Cursor) (members : List (String × Value))
    (c' : Cursor) : Prop where
  shorter : c'.rest.length < c.rest.length
  read : ∀ {fuel} (done), 2 * c.rest.length + 1 < fuel →
    readMembers fuel depth first done c = .ok (done.reverse ++ members, c')

section Reads
variable {depth : Nat} {first : Bool} {c c' start behind colon : Cursor} {rest : List Char} {v : Value}
variable {items : List Value} {members : List (String × Value)} {key : String}

theorem exists_round {n fuel : Nat} (enough : n < fuel) : ∃ spare, fuel = spare + 1 ∧ n ≤ spare :=
  ⟨fuel - 1, by omega, by omega⟩

theorem ReadsValue.leaf (leaf : Leaf c.skipBlanks v c') : ReadsValue depth c v c' := by
  refine ⟨Nat.lt_of_lt_of_le (leaf_shorter leaf) (skipBlanks_le c), fun enough => ?_⟩
  obtain ⟨spare, rfl, -⟩ := exists_round enough
  exact readValueWith_of_reading (.leaf leaf)

theorem ReadsValue.list (here : c.skipBlanks.rest = '[' :: rest)
    (reads : ReadsItems (depth + 1) true c.skipBlanks.next items c') :
    ReadsValue (depth + 2) c (.arr items) c' := by
  have shorter := reads.shorter
  have blanks := skipBlanks_le c
  have bracket := next_shorter here
  refine ⟨by omega, fun enough => ?_⟩
  obtain ⟨spare, rfl, enough⟩ := exists_round enough
  exact readValueWith_of_reading (.list here (reads.read [] (by omega)))

theorem ReadsValue.object (here : c.skipBlanks.rest = '\x7b' :: rest)
    (reads : ReadsMembers (depth + 1) true c.skipBlanks.next members c') :
    ReadsValue (depth + 2) c (.obj members) c' := by
  have shorter := reads.shorter
  have blanks := skipBlanks_le c
  have brace := next_shorter here
  refine ⟨by omega, fun enough => ?_⟩
  obtain ⟨spare, rfl, enough⟩ := exists_round enough
  exact readValueWith_of_reading (.object here (reads.read [] (by omega)))

theorem ReadsItems.nil (found : nextItem first c = .ok (.done c')) : ReadsItems depth first c [] c'.next := by
  refine ⟨nextItem_done_shorter found, fun done enough => ?_⟩
  obtain ⟨spare, rfl, -⟩ := exists_round enough
  rw [readItems, found, List.append_nil]

theorem ReadsItems.cons (found : nextItem first c = .ok (.item start)) (value : ReadsValue depth start v behind)
    (others : ReadsItems depth false behind items c') : ReadsItems depth first c (v :: items) c' := by
  have := nextItem_le found
  have := value.shorter
  have := others.shorter
  refine ⟨by omega, fun done enough => ?_⟩
  obtain ⟨spare, rfl, enough⟩ := exists_round enough
  have head : readValueWith spare depth start = .ok (v, behind) := value.read (by omega)
  have tail := others.read (v :: done) (show 2 * behind.rest.length + 1 < spare by omega)
  rw [readItems, found]
  simp only [head, tail, List.reverse_cons, List.append_assoc, List.singleton_append]

theorem ReadsMembers.nil (found : nextKey first c = .ok (none, c')) :
    ReadsMembers depth first c [] c'.next := by
  refine ⟨nextKey_none_shorter found, fun done enough => ?_⟩
  obtain ⟨spare, rfl, -⟩ := exists_round enough
  rw [readMembers, found, List.append_nil]

theorem ReadsMembers.cons (found : nextKey first c = .ok (some key, colon))
    (marked : readColon colon = .ok start) (value : ReadsValue depth start v behind)
    (others : ReadsMembers depth false behind members c') :
    ReadsMembers depth first c ((key, v) :: members) c' := by
  have := nextKey_shorter found
  have := readColon_shorter marked
  have := value.shorter
  have := others.shorter
  refine ⟨by omega, fun done enough => ?_⟩
  obtain ⟨spare, rfl, enough⟩ := exists_round enough
  have head : readValueWith spare depth start = .ok (v, behind) := value.read (by omega)
  have tail := others.read ((key, v) :: done) (show 2 * behind.rest.length + 1 < spare by omega)
  rw [readMembers, found]
  simp only [marked, head, tail, List.reverse_cons, List.append_assoc, List.singleton_append]

end Reads

end PartyBridge.Json
