import Mathlib.Algebra.Group.Int.Defs
import PartyBridge.Options.Settings
import PartyBridge.Proofs.Bridge.Calls
import PartyBridge.Proofs.EngineOutput.Wire
import PartyBridge.Proofs.Json.Reader
import PartyBridge.Proofs.Options.Validation

/-!
# Integers on their way through a run

A value of the engine is read from its line, told to the driver, and comes back in a request, to the engine
or to the operator. It is the same integer all the way (`integers_kept`), and so is every integer of 64 bits,
with or without sign, that a driver makes up.
-/

namespace PartyBridge.Driver
open Json Text

theorem ofName?_name (command : Command) : Command.ofName? command.name = some command := by
  cases command <;> decide

section Reading
variable {c : Cursor} {more : List Char}

theorem readTag_name (command : Command) (here : c.rest = stringText command.name ++ more) :
    Yields (readTag c) command more := by
  obtain ⟨rest, quoted⟩ := stringText_cons command.name more
  rw [quoted] at here
  have inner : '\x22' :: c.next.rest = stringText command.name ++ more := by rw [next_rest here, quoted]
  obtain ⟨c', result, left⟩ := readString_stringText command.name inner
  refine ⟨c', ?_, left⟩
  simp [readTag, skipBlanks_solid here (by decide), here, result, ofName?_name]

def membersOf (command : Command) (n : Int) : List Char :=
  stringText "cmd" ++ ':' :: (stringText command.name ++ ',' ::
    (stringText "value" ++ ':' :: ((decimal n).toList ++ ['\x7d'])))

theorem readRequestMembers_int (command : Command) {n : Int} (least : leastInt64 ≤ n)
    (most : n ≤ greatestUInt64) (fuel : Nat) (here : c.rest = membersOf command n) :
    ∃ c', readRequestMembers (fuel + 3) true none [] c = .ok (command, [("value", .int n)], c') ∧
      c'.rest = [] := by
  obtain ⟨afterKey, keyRead, here⟩ := nextKey_first "cmd" here
  obtain ⟨afterColon, colonRead, here⟩ := readColon_colon here
  obtain ⟨afterTag, tagRead, here⟩ := readTag_name command here
  obtain ⟨afterName, nameRead, here⟩ := nextKey_comma "value" here
  obtain ⟨afterMark, markRead, here⟩ := readColon_colon here
  have ends : Ends ['\x7d'] := by
    rintro ch ⟨⟩
    decide
  obtain ⟨afterValue, valueRead, here⟩ :=
    readValueWith_int least most (2 * afterMark.rest.length + 1) (depthLimit - 1) here ends
  refine ⟨afterValue.next, ?_, next_rest here⟩
  simp [readRequestMembers, keyRead, colonRead, tagRead, nameRead, markRead, readValue, valueRead,
    nextKey_brace false here]

end Reading

def integerLine (command : Command) (n : Int) : String :=
  "\x7b\x22cmd\x22:\x22" ++ command.name ++ "\x22,\x22value\x22:" ++ decimal n ++ "\x7d"

theorem toList_integerLine (command : Command) (n : Int) :
    (integerLine command n).toList = '\x7b' :: membersOf command n := by
  have plain : command.name.toList.flatMap escapeChar = command.name.toList := by cases command <;> decide
  simp [integerLine, membersOf, plain, stringText, escapeChar]

/-- A request that carries an integer of 64 bits carries it as it was. -/
theorem parse_integerLine {command : Command} {request : Request} {n : Int} (least : leastInt64 ≤ n)
    (most : n ≤ greatestUInt64) (made : Request.ofMembers command [("value", .int n)] = .ok request) :
    Request.parse (integerLine command n) = .ok request := by
  have here : (Cursor.ofText (integerLine command n)).rest = '\x7b' :: membersOf command n :=
    toList_integerLine command n
  have inner := next_rest here
  -- the two members and the brace take three rounds
  obtain ⟨fuel, enough⟩ : ∃ fuel, (membersOf command n).length + 1 = fuel + 3 :=
    ⟨(membersOf command n).length - 2, by simp [membersOf]; omega⟩
  obtain ⟨c', result, left⟩ := readRequestMembers_int command least most fuel inner
  have read : readRequest (Cursor.ofText (integerLine command n)) = .ok (request, c') := by
    simp [readRequest, skipBlanks_solid here (by decide), here, readObjectForm, inner, enough, result, made]
  have ended : expectEnd c' = .ok () := by simp [expectEnd, Cursor.skipBlanks, skipBlanksFrom, left]
  simp [Request.parse, read, ended, Except.map]

/-! ### The way of a value -/

open EngineOutput (classify classify_words)

/-- The line of an accepted marker and a value is a line with that value. -/
theorem classify_marker {marker : String} (filled : marker.toList ≠ [])
    (solid : ∀ c ∈ marker.toList, isBlank c = false) (v : Int64) :
    classify marker.toList (marker ++ " " ++ decimal v.toInt).toList = .value v := by
  have parts : (marker ++ " " ++ decimal v.toInt).toList =
      marker.toList ++ ([' '] ++ ((decimal v.toInt).toList ++ [])) := by simp
  have gap : ∀ c ∈ [' '], isBlank c := by
    rw [List.forall_mem_singleton]
    decide
  have found : words (marker ++ " " ++ decimal v.toInt).toList =
      [marker.toList, (decimal v.toInt).toList] := by
    rw [parts, words_append_of_word filled solid (apart_of_blank (by simp) gap _), words_append_of_blank gap,
      words_append_of_word (decimal_ne_nil _) (decimal_solid _) (by simp [Apart]), words_eq_nil rfl]
  have marked : marker.toList <:+: (marker ++ " " ++ decimal v.toInt).toList := by
    rw [parts]
    exact (List.prefix_append _ _).isInfix
  exact classify_words marked found (readInt64?_decimal v)

theorem text_value (v : Int64) :
    (Reply.value v).text = "\x7b\x22event\x22:\x22value\x22,\x22value\x22:" ++ decimal v.toInt ++ "\x7d" := by
  have written : (Reply.value v).toJson.text = '\x7b' :: (stringText "event" ++ ':' :: stringText "value" ++
      ',' :: (stringText "value" ++ ':' :: (decimal v.toInt).toList)) ++ ['\x7d'] := rfl
  apply String.toList_injective
  simp [Reply.text, Value.render, written, stringText, escapeChar]

/-- An integer stays the same on its way: a value in a line of the engine and in the reply that tells it, and
any integer of 64 bits in the request that hands it on, up to the line that is written for it. -/
theorem integers_kept {settings accepted : Options.Settings} (valid : settings.validate = .ok accepted) :
    (∀ v : Int64,
      classify accepted.marker.toList (accepted.marker ++ " " ++ decimal v.toInt).toList = .value v ∧
      (Reply.value v).text =
        "\x7b\x22event\x22:\x22value\x22,\x22value\x22:" ++ decimal v.toInt ++ "\x7d") ∧
    ∀ n : Int, -2 ^ 63 ≤ n → n < 2 ^ 64 →
      (∃ request, Request.parse (integerLine .sendToEngine n) = .ok request ∧
        request.call = .ok (.send (decimal n))) ∧
      (∃ request, Request.parse (integerLine .userOutput n) = .ok request ∧
        request.call = .ok (.output (decimal n))) ∧
      ∀ b : Bridge,
        (b.engineOpen → b.engine.Takes (Utf8.encode (decimal n ++ "\n")) →
          ∃ after, b.perform (.send (decimal n)) = (after, some (.ok .ack)) ∧
            after.engine.stored = b.engine.stored ++ Utf8.encode (decimal n ++ "\n") ∧
            after.screen = b.screen) ∧
        (b.screen.Takes (Utf8.encode ("output: " ++ decimal n ++ "\n")) →
          ∃ after, b.perform (.output (decimal n)) = (after, some (.ok .ack)) ∧
            after.screen.stored = b.screen.stored ++ Utf8.encode ("output: " ++ decimal n ++ "\n") ∧
            after.engine = b.engine) := by
  obtain ⟨filled, solid⟩ := Options.Settings.marker_of_validate valid
  refine ⟨fun v => ⟨classify_marker filled solid v, text_value v⟩, fun n least most => ?_⟩
  have most : n ≤ greatestUInt64 := Int.le_of_lt_add_one most
  refine ⟨⟨_, parse_integerLine least most rfl, rfl⟩, ⟨_, parse_integerLine least most rfl, rfl⟩,
    fun b => ⟨fun isOpen takes => ?_, fun takes => ?_⟩⟩
  · obtain ⟨after, result, engine, screen⟩ := Bridge.perform_send isOpen takes
    exact ⟨after, result, by rw [engine], screen⟩
  · obtain ⟨after, result, screen, engine⟩ := Bridge.perform_output takes
    exact ⟨after, result, by rw [screen], engine⟩

def plainSettings : Options.Settings :=
  ⟨0, Utf8.encode "sum", Options.defaultEngine, [], none, none, Options.defaultMarker, none, none,
    Options.defaultExitCloseGrace, false, false, false, false⟩

/-- A bridge whose engine has room for the 21 bytes of the greatest integer's line and no more. -/
def narrowBridge : Bridge :=
  .start ⟨[], some 1, some 21, .brokenPipe, false⟩ .unlimited .empty [] none

theorem integers_kept_limits :
    plainSettings.validate = .ok plainSettings ∧
    classify plainSettings.marker.toList
      (plainSettings.marker ++ " " ++ decimal Int64.minValue.toInt).toList = .value Int64.minValue ∧
    (∃ request, Request.parse (integerLine .sendToEngine (2 ^ 64 - 1)) = .ok request ∧
      request.call = .ok (.send (decimal (2 ^ 64 - 1)))) ∧
    ∃ after, narrowBridge.perform (.send (decimal (2 ^ 64 - 1))) = (after, some (.ok .ack)) ∧
      after.engine.stored = Utf8.encode (decimal (2 ^ 64 - 1) ++ "\n") := by
  have valid : plainSettings.validate = .ok plainSettings := by
    have normal : plainSettings.normalized = plainSettings := by decide +kernel
    have sound : plainSettings.fault? = none := by decide +kernel
    simp only [Options.Settings.validate, normal, sound]
  obtain ⟨values, integers⟩ := integers_kept valid
  obtain ⟨sends, -, writes⟩ := integers (2 ^ 64 - 1) (by decide) (by decide)
  have takes : narrowBridge.engine.Takes (Utf8.encode (decimal (2 ^ 64 - 1) ++ "\n")) :=
    ⟨by decide +kernel, by decide, rfl⟩
  obtain ⟨after, result, stored, -⟩ := (writes narrowBridge).1 rfl takes
  exact ⟨valid, (values Int64.minValue).1, sends, after, result, stored⟩

end PartyBridge.Driver
