import PartyBridge.Proofs.Bridge.Calls
import PartyBridge.Proofs.Text.Integer
import PartyBridge.Proofs.Text.Utf8

/-!
# The lines of the engine's input

Every value that a driver sends is written as its text and a newline. Numbers and truth values have no newline
in their texts, so each of them is a line of its own. A string is written as it is, and each newline in it ends
a line (`engine_input_framed_iff`).
-/

namespace PartyBridge.Utf8

theorem count_newline_encodeChars (text : List Char) : (encodeChars text).count 10 = text.count '\n' := by
  induction text with
  | nil => rfl
  | cons c text ih =>
    rw [encodeChars_cons, List.count_append, ih, List.count_cons]
    by_cases newline : c = '\n'
    · subst newline
      have one : (String.utf8EncodeChar '\n').count 10 = 1 := by decide
      simp [one, Nat.add_comm]
    · have none : (String.utf8EncodeChar c).count 10 = 0 :=
        List.count_eq_zero.mpr (mt newline_mem_utf8EncodeChar.mp newline)
      simp [none, newline]

theorem encode_line (text : String) : encode (text ++ "\n") = encode text ++ [10] := by
  rw [encode, String.toList_append, encodeChars_append]
  rfl

end PartyBridge.Utf8

namespace PartyBridge.ByteStream.Sink

/-- A sink that takes all bytes, in whatever pieces. -/
structure Endless (s : Sink) : Prop where
  room : s.room = none
  moves : s.perWrite ≠ some 0
  flushes : s.refusesFlush = false

theorem Endless.takes {s : Sink} (endless : s.Endless) (bytes : Bytes) : s.Takes bytes :=
  ⟨by simp [endless.room], endless.moves, endless.flushes⟩

end PartyBridge.ByteStream.Sink

namespace PartyBridge.Driver
open ByteStream Utf8

/-! ### Texts without a newline -/

theorem newline_not_mem_natDigits (n : Nat) : '\n' ∉ Text.natDigits n := by
  intro member
  have digit := Text.digit?_of_mem_natDigits member
  revert digit
  decide

theorem newline_not_mem_decimal (n : Int) : '\n' ∉ (Text.decimal n).toList := by
  intro member
  have blank : Text.isBlank '\n' = true := by decide
  simp [Text.decimal_solid n _ member] at blank

theorem newline_not_mem_positional {digits : List Char} (none : '\n' ∉ digits) (point : Int) :
    '\n' ∉ Number.positionalText digits point := by
  have front : '\n' ∉ digits.take point.toNat := fun member => none (List.mem_of_mem_take member)
  have back : '\n' ∉ digits.drop point.toNat := fun member => none (List.mem_of_mem_drop member)
  unfold Number.positionalText
  repeat' split
  all_goals simp [Number.zeros, List.mem_replicate, none, front, back]

theorem newline_not_mem_scientific {digits : List Char} (none : '\n' ∉ digits) (point : Int) :
    '\n' ∉ Number.scientificText digits point := by
  have exponent := newline_not_mem_natDigits (point - 1).natAbs
  unfold Number.scientificText
  dsimp only
  repeat' split
  all_goals simp_all

theorem newline_not_mem_render (style : Number.Style) (x : Number.Binary64) :
    '\n' ∉ (style.render x).toList := by
  have digits := newline_not_mem_natDigits x.shortest.digits
  have positional := newline_not_mem_positional digits
  have scientific := newline_not_mem_scientific digits
  unfold Number.Style.render
  rw [String.toList_ofList]
  dsimp only
  repeat' split
  all_goals simp [positional, scientific]

/-- Only the text of a string can have a newline. -/
theorem newline_mem_scalarText {value : Json.Value} {text : String} (scalar : scalarText? value = some text) :
    '\n' ∈ text.toList ↔ ∃ s, value = .str s ∧ '\n' ∈ s.toList := by
  unfold scalarText? at scalar
  split at scalar
  all_goals cases scalar
  · simp
  · simp [newline_not_mem_decimal]
  · simp [newline_not_mem_render]
  · simp
  · simp

/-! ### Requests on a bridge -/

/-- A desk at which calls are made on a bridge and all replies are kept. A receive that would wait for ever is
given up. -/
def clerk : Desk (Bridge × List Reply) where
  nextLine s := (none, s)
  call call s :=
    let (b, result) := s.1.perform call
    (result.getD (.error (.engineTerminated .cancelled)), (b, s.2))
  deliver reply s := (.ok (), (s.1, s.2 ++ [reply]))
  repliesLost s := s

/-- Serves requests in order, up to the first that fails. -/
def serveRequests {σ : Type} (desk : Desk σ) : List Request → σ → Served × σ
  | [], s => (.goesOn true, s)
  | request :: rest, s =>
    match serveRequest desk request s with
    | (.goesOn true, s) => serveRequests desk rest s
    | stopped => stopped

structure Sent (b : Bridge) (texts : List String) (after : Bridge) : Prop where
  stored : after.engine.stored = b.engine.stored ++ texts.flatMap fun text => encode text ++ [10]
  sent : after.stats.sent = b.stats.sent + texts.length
  isOpen : after.engineOpen = true
  endless : after.engine.Endless

theorem Sent.none {b : Bridge} (isOpen : b.engineOpen = true) (endless : b.engine.Endless) : Sent b [] b :=
  ⟨by simp, rfl, isOpen, endless⟩

theorem Sent.cons {b next after : Bridge} {text : String} {texts : List String} (first : Sent b [text] next)
    (others : Sent next texts after) : Sent b (text :: texts) after := by
  refine ⟨?_, ?_, others.isOpen, others.endless⟩
  · rw [others.stored, first.stored]
    simp
  · rw [others.sent, first.sent, List.length_singleton, List.length_cons]
    omega

theorem perform_sent {b : Bridge} (isOpen : b.engineOpen = true) (endless : b.engine.Endless) (text : String) :
    ∃ after, b.perform (.send text) = (after, some (.ok .ack)) ∧ Sent b [text] after := by
  have written := Sink.send_takes (endless.takes (encode (text ++ "\n")))
  unfold Bridge.perform Bridge.send
  simp only [isOpen, written, Bool.not_true, Bool.false_eq_true, if_false, Except.map]
  refine ⟨_, rfl, ?_, rfl, rfl, endless.room, endless.moves, endless.flushes⟩
  simp [Bridge.log, encode_line]

theorem serveRequest_send {b : Bridge} (isOpen : b.engineOpen = true) (endless : b.engine.Endless)
    {value : Json.Value} {text : String} (scalar : scalarText? value = some text) (replies : List Reply) :
    ∃ after, serveRequest clerk (.sendToEngine value) (b, replies) =
        (.goesOn true, (after, replies ++ [.ack])) ∧ Sent b [text] after := by
  have call : (Request.sendToEngine value).call = .ok (.send text) := by simp [Request.call, scalar]
  obtain ⟨after, performed, sent⟩ := perform_sent isOpen endless text
  refine ⟨after, ?_, sent⟩
  simp [serveRequest, call, clerk, performed]

/-- Every value is acknowledged and written. -/
theorem serveRequests_sends {b : Bridge} (isOpen : b.engineOpen = true) (endless : b.engine.Endless)
    {values : List Json.Value} {texts : List String} (scalars : values.map scalarText? = texts.map some)
    (replies : List Reply) :
    ∃ after, serveRequests clerk (values.map .sendToEngine) (b, replies) =
        (.goesOn true, (after, replies ++ values.map fun _ => .ack)) ∧ Sent b texts after := by
  induction values generalizing b texts replies with
  | nil =>
    obtain rfl : texts = [] := by simpa using scalars
    exact ⟨b, by simp [serveRequests], .none isOpen endless⟩
  | cons value values ih =>
    cases texts with
    | nil => simp at scalars
    | cons text texts =>
      rw [List.map_cons, List.map_cons, List.cons.injEq] at scalars
      obtain ⟨next, served, first⟩ := serveRequest_send isOpen endless scalars.1 replies
      obtain ⟨after, rest, others⟩ := ih first.isOpen first.endless scalars.2 (replies ++ [.ack])
      refine ⟨after, ?_, first.cons others⟩
      rw [List.map_cons, serveRequests, served]
      simpa using rest

/-! ### Lines -/

theorem length_splitOn (xs : Bytes) : (xs.splitOn 10).length = xs.count 10 + 1 := by
  induction xs with
  | nil => rfl
  | cons x xs ih =>
    rw [List.splitOn_cons_eq_if_modifyHead, List.count_cons]
    split <;> simp [ih]

theorem count_newline_lines (texts : List String) :
    (texts.flatMap fun text => encode text ++ [10]).count 10 =
      texts.length + (texts.flatMap String.toList).count '\n' := by
  induction texts with
  | nil => rfl
  | cons text texts ih =>
    have one : [(10 : UInt8)].count 10 = 1 := rfl
    rw [List.flatMap_cons, List.count_append, ih, List.count_append, encode, count_newline_encodeChars, one,
      List.flatMap_cons, List.count_append, List.length_cons]
    omega

/-- Texts that are written as lines are found again if there is no newline in them. -/
theorem splitOn_lines_iff (texts : List String) :
    (texts.flatMap fun text => encode text ++ [10]).splitOn 10 = texts.map encode ++ [[]] ↔
      ∀ text ∈ texts, '\n' ∉ text.toList := by
  constructor
  · intro framed
    -- each newline in a text would make one more line
    have lines := congrArg List.length framed
    rw [length_splitOn, count_newline_lines, List.length_append, List.length_map, List.length_singleton] at lines
    have none : (texts.flatMap String.toList).count '\n' = 0 := by omega
    intro text member newline
    exact List.count_eq_zero.mp none (List.mem_flatMap_of_mem member newline)
  · intro single
    induction texts with
    | nil => rfl
    | cons text texts ih =>
      obtain ⟨first, others⟩ := List.forall_mem_cons.mp single
      have inner : 10 ∉ encode text := mt newline_mem_encodeChars.mp first
      rw [List.flatMap_cons, List.append_assoc, List.singleton_append,
        List.splitOn_append_cons_self_of_not_mem inner, ih others]
      rfl

/-- The texts of scalars have no newline if no string among the scalars has one. -/
theorem newline_texts_iff {values : List Json.Value} {texts : List String}
    (scalars : values.map scalarText? = texts.map some) :
    (∀ text ∈ texts, '\n' ∉ text.toList) ↔ ∀ s, .str s ∈ values → '\n' ∉ s.toList := by
  induction values generalizing texts with
  | nil =>
    obtain rfl : texts = [] := by simpa using scalars
    simp
  | cons value values ih =>
    cases texts with
    | nil => simp at scalars
    | cons text texts =>
      rw [List.map_cons, List.map_cons, List.cons.injEq] at scalars
      rw [List.forall_mem_cons, ih scalars.2, newline_mem_scalarText scalars.1]
      simp only [List.mem_cons, or_imp, forall_and, not_exists, not_and, @eq_comm _ value]

/-- Scalars that a driver sends, one after another, to an engine whose input takes everything: each is
acknowledged and counted, and its text and a newline are written. Split at its newlines, the engine's input is
the list of the texts if and only if no string among the scalars has a newline in it; each newline in a string
makes one line more. -/
theorem engine_input_framed_iff {values : List Json.Value} {texts : List String}
    (scalars : values.map scalarText? = texts.map some) (engine : Sink) (fresh : engine.stored = [])
    (endless : engine.Endless) (screen : Sink) (queue : ValueQueue) (answers : List LineRead)
    (timeout : Option Nat) :
    ∃ after, serveRequests clerk (values.map .sendToEngine)
        (.start engine screen queue answers timeout, []) =
          (.goesOn true, (after, values.map fun _ => .ack)) ∧
      after.stats.sent = values.length ∧
      (after.engine.stored.splitOn 10 = texts.map encode ++ [[]] ↔
        ∀ s, .str s ∈ values → '\n' ∉ s.toList) ∧
      after.engine.stored = (texts.flatMap fun text => encode text ++ [10]) ∧
      (after.engine.stored.splitOn 10).length =
        after.stats.sent + (texts.flatMap String.toList).count '\n' + 1 := by
  obtain ⟨after, served, sent⟩ :=
    serveRequests_sends (b := .start engine screen queue answers timeout) rfl endless scalars []
  have stored : after.engine.stored = texts.flatMap fun text => encode text ++ [10] := by
    rw [sent.stored, Bridge.start, fresh, List.nil_append]
  have count : after.stats.sent = texts.length := by
    rw [sent.sent]
    exact Nat.zero_add _
  have same : values.length = texts.length := by simpa using congrArg List.length scalars
  refine ⟨after, served, count.trans same.symm, ?_, stored, ?_⟩
  · rw [stored, splitOn_lines_iff, newline_texts_iff scalars]
  · rw [stored, length_splitOn, count_newline_lines, count]

def narrowInput : Sink :=
  ⟨[], some 1, none, .brokenPipe, false⟩

/-- Values of all kinds, an empty string among them. -/
theorem engine_input_framed_scalars :
    [Json.Value.int (-7), .str "", .bool true, .str "a b\r"].map scalarText? =
      ["-7", "", "true", "a b\r"].map some ∧
    ∃ after, serveRequests clerk
        ([Json.Value.int (-7), .str "", .bool true, .str "a b\r"].map .sendToEngine)
        (.start narrowInput .unlimited .empty [] none, []) =
          (.goesOn true, (after, [.ack, .ack, .ack, .ack])) ∧
      after.stats.sent = 4 ∧
      after.engine.stored.splitOn 10 = [encode "-7", encode "", encode "true", encode "a b\r", []] := by
  have scalars : [Json.Value.int (-7), .str "", .bool true, .str "a b\r"].map scalarText? =
      ["-7", "", "true", "a b\r"].map some := by
    decide +kernel
  obtain ⟨after, served, sent, framed, -⟩ := engine_input_framed_iff scalars narrowInput rfl
    ⟨rfl, by decide, rfl⟩ .unlimited .empty [] none
  refine ⟨scalars, after, served, sent, framed.mpr ?_⟩
  intro s member
  obtain rfl | rfl : s = "" ∨ s = "a b\r" := by simpa using member
  · decide
  · decide

/-- A string with a newline is one value that is sent, and two lines of the engine's input. -/
theorem newline_makes_two_lines :
    ∃ after, serveRequests clerk [.sendToEngine (.str "a\nb")]
        (.start narrowInput .unlimited .empty [] none, []) = (.goesOn true, (after, [.ack])) ∧
      after.stats.sent = 1 ∧
      after.engine.stored.splitOn 10 = [encode "a", encode "b", []] ∧
      after.engine.stored.splitOn 10 ≠ [encode "a\nb", []] := by
  refine ⟨_, rfl, rfl, ?_, ?_⟩
  · decide +kernel
  · decide +kernel

end PartyBridge.Driver
