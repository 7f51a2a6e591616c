import PartyBridge.Proofs.Json.Readings

/-!
# Reading objects back

An object of strings and integers of 64 bits that was written is read back as it was, its members in their order
(`parse_render_obj`).
-/

namespace PartyBridge.Json
open Text

/-- A value whose text is read back, whatever ends it. -/
def Legible (v : Value) : Prop :=
  ∀ (fuel depth : Nat) (c : Cursor) (more : List Char), c.rest = v.text ++ more → Ends more →
    Yields (readValueWith (fuel + 1) depth c) v more

theorem legible_str (s : String) : Legible (.str s) := by
  intro fuel depth c more here _
  have text : c.rest = stringText s ++ more := here
  obtain ⟨rest, quoted⟩ := stringText_cons s more
  have quote : c.rest = '\x22' :: rest := text.trans quoted
  have inner : '\x22' :: c.next.rest = stringText s ++ more := by rw [next_rest quote, quoted]
  obtain ⟨c', result, left⟩ := readString_stringText s inner
  have leaf : Leaf c.skipBlanks (.str s) c' := by
    rw [skipBlanks_solid quote (by decide)]
    exact .string quote result
  exact ⟨c', readValueWith_of_reading (.leaf leaf), left⟩

theorem legible_int {n : Int} (least : leastInt64 ≤ n) (most : n ≤ greatestUInt64) : Legible (.int n) :=
  fun fuel depth _ _ here ends => readValueWith_int least most fuel depth here ends

/-! ### Members -/

def memberText (member : String × Value) : List Char :=
  stringText member.1 ++ ':' :: member.2.text

def furtherText (members : List (String × Value)) : List Char :=
  members.flatMap fun member => ',' :: memberText member

theorem membersText_cons (member : String × Value) (members : List (String × Value)) :
    membersText (member :: members) = memberText member ++ furtherText members := by
  induction members generalizing member with
  | nil => simp [membersText, memberText, furtherText]
  | cons next members ih =>
    rw [membersText, ih next]
    · simp [memberText, furtherText]
    · simp

theorem ends_comma (more : List Char) : Ends (',' :: more) := by
  rintro ch ⟨⟩
  decide

theorem ends_brace (more : List Char) : Ends ('\x7d' :: more) := by
  rintro ch ⟨⟩
  decide

theorem ends_further (members : List (String × Value)) (more : List Char) :
    Ends (furtherText members ++ '\x7d' :: more) := by
  cases members with
  | nil => exact ends_brace more
  | cons member members => exact ends_comma _

section Members
variable {c : Cursor} {more : List Char} {members : List (String × Value)}

/-- A member is read behind its key. -/
theorem readMember {v : Value} (legible : Legible v) (fuel depth : Nat) (here : c.rest = ':' :: (v.text ++ more))
    (ends : Ends more) :
    ∃ c' c'', readColon c = .ok c' ∧ readValueWith (fuel + 1) depth c' = .ok (v, c'') ∧ c''.rest = more := by
  obtain ⟨c', colon, left⟩ := readColon_colon here
  obtain ⟨c'', value, rest⟩ := legible fuel depth c' more left ends
  exact ⟨c', c'', colon, value, rest⟩

theorem readMembers_further (legible : ∀ member ∈ members, Legible member.2) {fuel : Nat} (depth : Nat)
    (done : List (String × Value)) (here : c.rest = furtherText members ++ '\x7d' :: more)
    (enough : members.length < fuel) :
    Yields (readMembers fuel depth false done c) (done.reverse ++ members) more := by
  induction members generalizing fuel done c with
  | nil =>
    obtain ⟨fuel, rfl⟩ := Nat.exists_eq_add_one_of_ne_zero (Nat.ne_of_gt enough)
    have brace : c.rest = '\x7d' :: more := here
    refine ⟨c.next, ?_, next_rest brace⟩
    simp [readMembers, nextKey_brace false brace]
  | cons member members ih =>
    obtain ⟨key, v⟩ := member
    obtain ⟨first, others⟩ := List.forall_mem_cons.mp legible
    obtain ⟨fuel, rfl⟩ : ∃ rest, fuel = rest + 2 := ⟨fuel - 2, by rw [List.length_cons] at enough; omega⟩
    have text : c.rest =
        ',' :: (stringText key ++ ':' :: (v.text ++ (furtherText members ++ '\x7d' :: more))) := by
      simpa [furtherText, memberText] using here
    obtain ⟨afterKey, keyRead, left⟩ := nextKey_comma key text
    obtain ⟨afterColon, afterValue, colonRead, valueRead, left⟩ :=
      readMember first fuel depth left (ends_further members more)
    have within : members.length < fuel + 1 := Nat.lt_of_succ_lt_succ enough
    have rest := ih others ((key, v) :: done) left within
    rw [readMembers, keyRead]
    simpa [colonRead, valueRead] using rest

theorem readMembers_membersText (legible : ∀ member ∈ members, Legible member.2) {fuel : Nat} (depth : Nat)
    (here : c.rest = membersText members ++ '\x7d' :: more) (enough : members.length < fuel) :
    Yields (readMembers fuel depth true [] c) members more := by
  cases members with
  | nil =>
    obtain ⟨fuel, rfl⟩ := Nat.exists_eq_add_one_of_ne_zero (Nat.ne_of_gt enough)
    have brace : c.rest = '\x7d' :: more := by simpa [membersText] using here
    refine ⟨c.next, ?_, next_rest brace⟩
    simp [readMembers, nextKey_brace true brace]
  | cons member members =>
    obtain ⟨key, v⟩ := member
    obtain ⟨first, others⟩ := List.forall_mem_cons.mp legible
    obtain ⟨fuel, rfl⟩ : ∃ rest, fuel = rest + 2 := ⟨fuel - 2, by rw [List.length_cons] at enough; omega⟩
    rw [membersText_cons] at here
    have text : c.rest = stringText key ++ ':' :: (v.text ++ (furtherText members ++ '\x7d' :: more)) := by
      simpa [memberText] using here
    obtain ⟨afterKey, keyRead, left⟩ := nextKey_first key text
    obtain ⟨afterColon, afterValue, colonRead, valueRead, left⟩ :=
      readMember first fuel depth left (ends_further members more)
    have within : members.length < fuel + 1 := Nat.lt_of_succ_lt_succ enough
    have rest := readMembers_further others depth [(key, v)] left within
    rw [readMembers, keyRead]
    simpa [colonRead, valueRead] using rest

end Members

theorem length_le_furtherText (members : List (String × Value)) :
    members.length ≤ (furtherText members).length := by
  induction members with
  | nil => exact Nat.le_refl 0
  | cons member members ih =>
    rw [furtherText, List.flatMap_cons, List.length_append, List.length_cons, List.length_cons]
    have : members.length ≤ (members.flatMap fun member => ',' :: memberText member).length := ih
    omega

theorem length_le_membersText (members : List (String × Value)) :
    members.length ≤ (membersText members).length := by
  cases members with
  | nil => exact Nat.zero_le _
  | cons member members =>
    have further := length_le_furtherText members
    have key : 1 ≤ (memberText member).length := by simp [memberText, stringText]
    rw [membersText_cons, List.length_append, List.length_cons]
    omega

/-- An object whose members can be read back is read back. -/
theorem parse_render_obj {members : List (String × Value)} (legible : ∀ member ∈ members, Legible member.2) :
    Json.parse (Value.obj members).render = .ok (.obj members) := by
  have here : (Cursor.ofText (Value.obj members).render).rest = '\x7b' :: (membersText members ++ ['\x7d']) := by
    simp [Cursor.ofText, Value.render, Value.text]
  have inner := next_rest here
  have enough : members.length < 2 * ((membersText members ++ ['\x7d']).length + 1) + 1 := by
    have := length_le_membersText members
    rw [List.length_append]
    omega
  obtain ⟨c, read, left⟩ := readMembers_membersText legible (126 + 1) inner enough
  have whole : readValue 0 (Cursor.ofText (Value.obj members).render) = .ok (.obj members, c) := by
    have still := skipBlanks_solid here (by decide)
    rw [readValue, here, List.length_cons]
    exact readValueWith_of_reading (.object (by rw [still, here]) (by rw [still, read]))
  have ended : expectEnd c = .ok () := by simp [expectEnd, Cursor.skipBlanks, skipBlanksFrom, left]
  simp [Json.parse, whole, ended, Except.map]

end PartyBridge.Json
