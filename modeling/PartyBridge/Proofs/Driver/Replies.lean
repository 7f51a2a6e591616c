import PartyBridge.Proofs.Driver.Framing
import PartyBridge.Proofs.Json.Objects

/-!
# Reading replies back

Every reply is one line, whatever text it carries: newlines and all other control characters are escaped. The
text of the line is read as the reply's JSON object, so a driver that splits what it is sent at the newlines
has the replies in their order (`replies_recovered`).
-/

namespace PartyBridge.Driver
open Json Text ByteStream

/-! ### One line -/

theorem newline_not_mem_escapeChar (c : Char) : '\n' ∉ escapeChar c := by
  have digits : ∀ d : Fin 16, hexDigit d ≠ '\n' := by decide
  unfold escapeChar
  split
  · rename_i quoted
    rcases quoted with rfl | rfl <;> decide
  iterate 5
    split
    · decide
  split
  · rename_i control
    have high := digits ⟨c.toNat / 16, by omega⟩
    have low := digits ⟨c.toNat % 16, by omega⟩
    simp [Ne.symm high, Ne.symm low]
  · rename_i unquoted newline _ _ _ _ _
    simpa using Ne.symm newline

theorem newline_not_mem_stringText (s : String) : '\n' ∉ stringText s := by
  intro member
  simp only [stringText, List.cons_append, List.mem_cons, List.mem_append, List.mem_flatMap, List.not_mem_nil,
    or_false] at member
  rcases member with quote | ⟨c, -, escaped⟩ | quote
  · exact absurd quote (by decide)
  · exact newline_not_mem_escapeChar c escaped
  · exact absurd quote (by decide)

theorem newline_not_mem_membersText {members : List (String × Value)}
    (single : ∀ member ∈ members, '\n' ∉ member.2.text) : '\n' ∉ membersText members := by
  have one {member : String × Value} (single : '\n' ∉ member.2.text) : '\n' ∉ memberText member := by
    simp [memberText, newline_not_mem_stringText, single]
  have further : ∀ members : List (String × Value), (∀ member ∈ members, '\n' ∉ member.2.text) →
      '\n' ∉ furtherText members := by
    intro members single newline
    obtain ⟨member, listed, found⟩ := List.mem_flatMap.mp newline
    rcases List.mem_cons.mp found with comma | inside
    · exact absurd comma (by decide)
    · exact one (single member listed) inside
  cases members with
  | nil => simp [membersText]
  | cons member members =>
    obtain ⟨first, others⟩ := List.forall_mem_cons.mp single
    rw [membersText_cons, List.mem_append, not_or]
    exact ⟨one first, further members others⟩

def Reply.members (reply : Reply) : List (String × Value) :=
  ("event", .str reply.event) :: reply.payload

theorem Reply.members_cases {reply : Reply} {member : String × Value} (listed : member ∈ reply.members) :
    (∃ s, member.2 = .str s) ∨ ∃ v : Int64, member.2 = .int v.toInt := by
  rcases List.mem_cons.mp listed with rfl | carried
  · exact .inl ⟨_, rfl⟩
  · cases reply with
    | ack => cases carried
    | input answer => exact .inl ⟨answer, by rw [List.mem_singleton.mp carried]⟩
    | value v => exact .inr ⟨v, by rw [List.mem_singleton.mp carried]⟩
    | error message => exact .inl ⟨message, by rw [List.mem_singleton.mp carried]⟩

theorem Reply.newline_not_mem_text (reply : Reply) : '\n' ∉ reply.text.toList := by
  have single : ∀ member ∈ reply.members, '\n' ∉ member.2.text := by
    intro member listed
    obtain ⟨s, isStr⟩ | ⟨v, isInt⟩ := Reply.members_cases listed
    · rw [isStr]
      exact newline_not_mem_stringText s
    · rw [isInt]
      exact newline_not_mem_decimal v.toInt
  have inner := newline_not_mem_membersText single
  have text : reply.text.toList = '\x7b' :: membersText reply.members ++ ['\x7d'] := String.toList_ofList
  simp [text, inner]

/-- The text of a reply is read as its object. -/
theorem Reply.parse_text (reply : Reply) : Json.parse reply.text = .ok reply.toJson := by
  apply parse_render_obj
  intro member listed
  obtain ⟨s, isStr⟩ | ⟨v, isInt⟩ := Reply.members_cases listed
  · rw [isStr]
    exact legible_str s
  · rw [isInt]
    have least : leastInt64 ≤ v.toInt := v.le_toInt
    have most : v.toInt ≤ greatestInt64 := Int.le_of_lt_add_one v.toInt_lt
    exact legible_int least (Int.le_trans most (by decide))

/-! ### Many lines -/

def Reply.ofJson? : Value → Option Reply
  | .obj [("event", .str "input"), ("value", .str answer)] => some (.input answer)
  | .obj [("event", .str "ack")] => some .ack
  | .obj [("event", .str "value"), ("value", .int n)] => some (.value (Int64.ofInt n))
  | .obj [("event", .str "error"), ("message", .str message)] => some (.error message)
  | _ => none

theorem Reply.ofJson?_toJson (reply : Reply) : Reply.ofJson? reply.toJson = some reply := by
  cases reply with
  | value v => exact congrArg (fun v => some (Reply.value v)) (Int64.ofInt_toInt v)
  | _ => rfl

def Reply.ofLine? (bytes : Bytes) : Option Reply := do
  let text ← Utf8.decode? bytes
  let v ← (Json.parse text).toOption
  Reply.ofJson? v

theorem Reply.ofLine?_encode (reply : Reply) : Reply.ofLine? (Utf8.encode reply.text) = some reply := by
  simp [Reply.ofLine?, Utf8.decode?_encode, Reply.parse_text, Except.toOption, Reply.ofJson?_toJson]

/-- The replies that a driver reads: those of the lines that have ended. -/
def readReplies (bytes : Bytes) : Option (List Reply) :=
  (bytes.splitOn 10).dropLast.mapM Reply.ofLine?

theorem Reply.newline_not_mem_encode (reply : Reply) : 10 ∉ Utf8.encode reply.text :=
  mt Utf8.newline_mem_encodeChars.mp reply.newline_not_mem_text

theorem readReplies_line (reply : Reply) (rest : Bytes) :
    readReplies (reply.line ++ rest) = (readReplies rest).map (reply :: ·) := by
  have cut : (reply.line ++ rest).splitOn 10 = Utf8.encode reply.text :: rest.splitOn 10 := by
    rw [Reply.line, List.append_assoc, List.singleton_append]
    exact List.splitOn_append_cons_self_of_not_mem reply.newline_not_mem_encode rest
  rw [readReplies, cut, List.dropLast_cons_of_ne_nil (List.splitOn_ne_nil 10 rest), List.mapM_cons,
    Reply.ofLine?_encode, readReplies]
  cases (rest.splitOn 10).dropLast.mapM Reply.ofLine? <;> rfl

theorem readReplies_unended {rest : Bytes} (unended : 10 ∉ rest) : readReplies rest = some [] := by
  rw [readReplies, List.splitOn_eq_singleton unended]
  rfl

theorem readReplies_lines (replies : List Reply) {rest : Bytes} (unended : 10 ∉ rest) :
    readReplies (replies.flatMap Reply.line ++ rest) = some replies := by
  induction replies with
  | nil => exact readReplies_unended unended
  | cons reply replies ih =>
    rw [List.flatMap_cons, List.append_assoc, readReplies_line, ih]
    rfl

/-- A reply is a line with a single newline, at its end, and what stands before it is the text of the JSON object
that names the reply's kind and has what it carries. So the replies can be read back, in their order, from what
is written for them, also while the next one has not arrived as a whole. -/
theorem replies_recovered :
    (∀ reply : Reply, reply.line.count 10 = 1 ∧ reply.line.getLast? = some 10 ∧
      ∃ text, Utf8.decode? reply.line.dropLast = some text ∧
        Json.parse text = .ok (.obj (("event", .str reply.event) :: reply.payload))) ∧
    ∀ replies : List Reply, readReplies (replies.flatMap Reply.line) = some replies ∧
      ∀ (next : Reply) (arrived : Nat),
        readReplies (replies.flatMap Reply.line ++ next.line.dropLast.take arrived) = some replies := by
  have before (reply : Reply) : reply.line.dropLast = Utf8.encode reply.text := List.dropLast_concat
  refine ⟨fun reply => ⟨?_, List.getLast?_concat, reply.text, ?_, reply.parse_text⟩,
    fun replies => ⟨?_, fun next arrived => readReplies_lines replies ?_⟩⟩
  · rw [Reply.line, List.count_append, List.count_eq_zero.mpr reply.newline_not_mem_encode]
    rfl
  · rw [before, Utf8.decode?_encode]
  · simpa using readReplies_lines replies List.not_mem_nil
  · rw [before]
    exact fun newline => next.newline_not_mem_encode (List.mem_of_mem_take newline)

end PartyBridge.Driver
