import PartyBridge.Driver.Request
import PartyBridge.Proofs.Json.Spacing

/-!
# Requests and the members of their objects

The reader of requests goes through the members of an object by itself and sets the command apart on the way.
It finds what the JSON reader finds, so the request is a function of the members (`parse_toOption`), and if none
of its own members comes twice, of the command and its argument alone (`parse_by_members`).
-/

namespace PartyBridge.Driver
open Json

/-! ### Reading the members -/

def Command.ofValue? : Value → Option Command
  | .str name => Command.ofName? name
  | _ => none

/-- The primitive that some members name, if `cmd` is among them once, and the other members. `tag` is a primitive
that has been named before them. -/
def siftMembers : Option Command → List (String × Value) → Option (Command × List (String × Value))
  | tag, [] => tag.map fun command => (command, [])
  | tag, (key, v) :: rest =>
    if key = "cmd" then
      if tag.isSome then none else (Command.ofValue? v).bind fun command => siftMembers (some command) rest
    else (siftMembers tag rest).map fun found => (found.1, (key, v) :: found.2)

theorem toOption_eq_some {ε α : Type} {result : Except ε α} {a : α} :
    result.toOption = some a ↔ result = .ok a := by
  cases result <;> simp [Except.toOption]

theorem toOption_eq_none {ε α : Type} {result : Except ε α} :
    result.toOption = none ↔ ∃ fault, result = .error fault := by
  cases result <;> simp [Except.toOption]

theorem ofValue?_bare {v : Value} (bare : v.Bare) : Command.ofValue? v = none := by
  cases v with
  | str s => cases bare
  | null | bool | int | float | arr | obj => rfl

theorem readTag_other {c : Cursor} {ch : Char} {rest : List Char} (here : c.skipBlanks.rest = ch :: rest)
    (other : ch ≠ '\x22') : (readTag c).toOption = none := by
  unfold readTag
  dsimp only
  rw [here]
  split
  · next quote => exact absurd (List.cons.inj quote).1 other
  · rfl

/-- The name of a primitive is read where the JSON reader reads a string that is one, and ends where it ends. -/
theorem readTag_toOption {depth : Nat} {c c' : Cursor} {v : Value} (reads : ReadsValue depth c v c') :
    (readTag c).toOption = (Command.ofValue? v).map fun command => (command, c') := by
  cases reading_of_readValueWith (reads.read (Nat.lt_succ_self _)) with
  | list here read => exact readTag_other here (by decide)
  | object here read => exact readTag_other here (by decide)
  | leaf leaf =>
    obtain ⟨ch, rest, here, other, bare⟩ | ⟨rest, name, here, rfl, read⟩ := leaf_cases leaf
    · rw [readTag_other here other, ofValue?_bare bare, Option.map_none]
    · simp only [readTag, here, read, Command.ofValue?]
      cases Command.ofName? name <;> rfl

/-- Between two cursors, the reader of requests reads what is sifted from the members there. -/
def SiftsMembers (first : Bool) (c : Cursor) (members : List (String × Value)) (c' : Cursor) : Prop :=
  ∀ fuel tag done, c.rest.length < fuel →
    (readRequestMembers fuel first tag done c).toOption =
      (siftMembers tag members).map fun found => (found.1, done.reverse ++ found.2, c')

section Members
variable {first : Bool} {c c' colon start behind : Cursor} {members : List (String × Value)}
variable {key : String} {v : Value}

theorem SiftsMembers.nil (found : nextKey first c = .ok (none, c')) : SiftsMembers first c [] c'.next := by
  intro fuel tag done enough
  obtain ⟨spare, rfl, -⟩ := exists_round enough
  rw [readRequestMembers, found]
  cases tag with
  | none => rfl
  | some command => simp [siftMembers, Except.toOption]

theorem SiftsMembers.cons (found : nextKey first c = .ok (some key, colon))
    (marked : readColon colon = .ok start) (value : ReadsValue (depthLimit - 1) start v behind)
    (others : SiftsMembers false behind members c') :
    SiftsMembers first c ((key, v) :: members) c' := by
  intro fuel tag done enough
  obtain ⟨spare, rfl, enough⟩ := exists_round enough
  have := nextKey_shorter found
  have := readColon_shorter marked
  have := value.shorter
  have enough : behind.rest.length < spare := by omega
  rw [readRequestMembers, found, siftMembers]
  -- the command has a reader of its own, and all other members have the one of JSON values
  by_cases cmd : key = "cmd"
  · simp only [if_pos cmd]
    cases tag with
    | some command => rfl
    | none =>
      have tagged := readTag_toOption value
      simp only [marked, Option.isSome_none, Bool.false_eq_true, if_false]
      cases named : Command.ofValue? v with
      | none =>
        rw [named, Option.map_none, toOption_eq_none] at tagged
        obtain ⟨fault, read⟩ := tagged
        simp [read, Except.toOption]
      | some command =>
        rw [named, Option.map_some, toOption_eq_some] at tagged
        simp only [tagged]
        exact others _ _ _ enough
  · have read : readValue 1 start = .ok (v, behind) := value.read (by omega)
    simp only [if_neg cmd, marked, read]
    rw [others _ _ _ enough]
    cases siftMembers tag members <;> simp

end Members

theorem siftsMembers_of_fuel {fuel : Nat} {c c' : Cursor} {members : List (String × Value)}
    (read : readMembers fuel (depthLimit - 1) true [] c = .ok (members, c')) :
    SiftsMembers true c members c' := by
  -- only the members of the outermost object are sifted: one level down from the greatest depth
  have sifts := (reading_induction (V := ReadsValue) (I := ReadsItems)
    (M := fun depth first c members c' => ReadsMembers depth first c members c' ∧
      (depth = depthLimit - 1 → SiftsMembers first c members c'))
    .leaf .list ?object .nil .cons ?objectEnd ?member fuel).2.2 read
  case object => exact fun here inner => .object here inner.1
  case objectEnd => exact fun found => ⟨.nil found, fun _ => SiftsMembers.nil found⟩
  case member =>
    rintro depth first c key colon start v behind members c' found marked value ⟨others, sifts⟩
    refine ⟨.cons found marked value others, ?_⟩
    rintro rfl
    exact SiftsMembers.cons found marked value (sifts rfl)
  obtain ⟨members, rfl, -, sifts⟩ := sifts
  exact sifts rfl

theorem exists_brace {text : String} {members : List (String × Value)}
    (accepted : Json.parse text = .ok (.obj members)) :
    ∃ rest c', (Cursor.ofText text).skipBlanks.rest = '\x7b' :: rest ∧
      SiftsMembers true (Cursor.ofText text).skipBlanks.next members c' ∧ expectEnd c' = .ok () := by
  unfold Json.parse at accepted
  split at accepted
  · cases accepted
  · next v c' whole =>
    obtain ⟨⟨⟩, ended, rfl⟩ := map_eq_ok accepted
    cases reading_of_readValueWith whole with
    | leaf leaf =>
      obtain ⟨-, -, -, -, bare⟩ | ⟨-, s, -, other, -⟩ := leaf_cases leaf
      · cases bare
      · cases other
    | object here read => exact ⟨_, c', here, siftsMembers_of_fuel read, ended⟩

/-- The request of an object is a function of its members. -/
theorem parse_toOption {text : String} {members : List (String × Value)}
    (accepted : Json.parse text = .ok (.obj members)) :
    (Request.parse text).toOption =
      (siftMembers none members).bind fun found => (Request.ofMembers found.1 found.2).toOption := by
  obtain ⟨rest, c', here, sifts, ended⟩ := exists_brace accepted
  have sifted := sifts ((Cursor.ofText text).skipBlanks.next.rest.length + 1) none [] (Nat.lt_succ_self _)
  simp only [Request.parse, readRequest, here, readObjectForm]
  cases outcome : siftMembers none members with
  | none =>
    rw [outcome, Option.map_none, toOption_eq_none] at sifted
    obtain ⟨fault, read⟩ := sifted
    simp [read, Except.toOption]
  | some found =>
    rw [outcome, Option.map_some, toOption_eq_some] at sifted
    simp only [sifted, List.reverse_nil, List.nil_append, Option.bind_some]
    cases Request.ofMembers found.1 found.2 with
    | error m => rfl
    | ok request => simp [ended, Except.map, Except.toOption]

/-! ### Members that come once -/

def keys (members : List (String × Value)) : List String :=
  members.map Prod.fst

section Once
variable {members before after : List (String × Value)} {key : String} {v w : Value}

theorem keys_cons : keys ((key, v) :: members) = key :: keys members :=
  rfl

theorem mem_keys : key ∈ keys members ↔ ∃ v, (key, v) ∈ members := by
  simp [keys]

theorem exists_member (once : (keys members).count key = 1) :
    ∃ before v after, members = before ++ (key, v) :: after ∧ key ∉ keys before ∧ key ∉ keys after := by
  induction members with
  | nil => cases once
  | cons member members ih =>
    obtain ⟨other, v⟩ := member
    rw [keys_cons, List.count_cons] at once
    by_cases same : other = key
    · subst same
      refine ⟨[], v, members, rfl, List.not_mem_nil, List.count_eq_zero.mp ?_⟩
      simpa using once
    · have absent : (other == key) = false := beq_false_of_ne same
      rw [absent] at once
      obtain ⟨before, w, after, rfl, absentBefore, absentAfter⟩ := ih once
      refine ⟨(other, v) :: before, w, after, rfl, ?_, absentAfter⟩
      rw [keys_cons, List.mem_cons, not_or]
      exact ⟨Ne.symm same, absentBefore⟩

theorem mem_once (absentBefore : key ∉ keys before) (absentAfter : key ∉ keys after) :
    (key, w) ∈ before ++ (key, v) :: after ↔ w = v := by
  constructor
  · intro member
    rcases List.mem_append.mp member with member | member
    · exact absurd (mem_keys.mpr ⟨_, member⟩) absentBefore
    · rcases List.mem_cons.mp member with same | member
      · exact (Prod.mk.inj same).2
      · exact absurd (mem_keys.mpr ⟨_, member⟩) absentAfter
  · rintro rfl
    simp

theorem siftMembers_append (absent : "cmd" ∉ keys before) (tag : Option Command)
    (after : List (String × Value)) :
    siftMembers tag (before ++ after) =
      (siftMembers tag after).map fun found => (found.1, before ++ found.2) := by
  induction before with
  | nil => simp
  | cons member before ih =>
    obtain ⟨key, v⟩ := member
    rw [keys_cons, List.mem_cons, not_or] at absent
    rw [List.cons_append, siftMembers, if_neg (Ne.symm absent.1), ih absent.2, Option.map_map]
    rfl

theorem siftMembers_once (absentBefore : "cmd" ∉ keys before) (absentAfter : "cmd" ∉ keys after) :
    siftMembers none (before ++ ("cmd", v) :: after) =
      (Command.ofValue? v).map fun command => (command, before ++ after) := by
  have rest : ∀ command, siftMembers (some command) after = some (command, after) := by
    intro command
    simpa [siftMembers] using siftMembers_append absentAfter (some command) []
  rw [siftMembers_append absentBefore, siftMembers]
  cases Command.ofValue? v <;> simp [rest]

section OneMember
variable {α : Type} {read : Value → Except Mismatch α}

theorem oneMember_other {other : String} (different : other ≠ key) (found : Option α) :
    oneMember key read ((other, v) :: members) found = oneMember key read members found := by
  cases found <;> rw [oneMember, if_neg different]

theorem oneMember_absent (absent : key ∉ keys members) (found : Option α) :
    oneMember key read members found = found.elim (.error (.missingField key)) .ok := by
  induction members with
  | nil => cases found <;> rfl
  | cons member members ih =>
    obtain ⟨other, v⟩ := member
    rw [keys_cons, List.mem_cons, not_or] at absent
    rw [oneMember_other (Ne.symm absent.1), ih absent.2]

theorem oneMember_once (absentBefore : key ∉ keys before) (absentAfter : key ∉ keys after) :
    oneMember key read (before ++ (key, v) :: after) none = read v := by
  induction before with
  | nil =>
    rw [List.nil_append, oneMember, if_pos rfl]
    cases read v with
    | error m => rfl
    | ok a => exact oneMember_absent absentAfter (some a)
  | cons member before ih =>
    obtain ⟨other, w⟩ := member
    rw [keys_cons, List.mem_cons, not_or] at absentBefore
    rw [List.cons_append, oneMember_other (Ne.symm absentBefore.1), ih absentBefore.2]

/-- A member that comes at most once is found wherever it stands. -/
theorem oneMember_eq_ok {a : α} (once : (keys members).count key ≤ 1) :
    oneMember key read members none = .ok a ↔ ∃ v, (key, v) ∈ members ∧ read v = .ok a := by
  rcases Nat.le_one_iff_eq_zero_or_eq_one.mp once with zero | one
  · have absent := List.count_eq_zero.mp zero
    rw [oneMember_absent absent, Option.elim_none]
    constructor
    · nofun
    · rintro ⟨v, member, -⟩
      exact absurd (mem_keys.mpr ⟨_, member⟩) absent
  · obtain ⟨before, v, after, rfl, absentBefore, absentAfter⟩ := exists_member one
    rw [oneMember_once absentBefore absentAfter]
    constructor
    · intro ok
      exact ⟨v, by simp, ok⟩
    · rintro ⟨w, member, ok⟩
      rw [mem_once absentBefore absentAfter] at member
      exact member ▸ ok

end OneMember

end Once

/-! ### Documents -/

/-- The members of an object in canonical form. -/
def document (members : List (String × Value)) : List (String × Value) :=
  canonicalMembers members []

section Documents
variable {members done : List (String × Value)} {key other : String} {v w : Value}

theorem mem_putMember_other (different : key ≠ other) :
    (key, w) ∈ putMember other v done ↔ (key, w) ∈ done := by
  induction done with
  | nil => simp [putMember, different]
  | cons member done ih =>
    obtain ⟨next, x⟩ := member
    rw [putMember]
    split
    · simp [different]
    · split
      · next same => simp [different, ← same]
      · rw [List.mem_cons, ih, List.mem_cons]

theorem mem_putMember_same (absent : key ∉ keys done) : (key, w) ∈ putMember key v done ↔ w = v := by
  induction done with
  | nil => simp [putMember]
  | cons member done ih =>
    obtain ⟨next, x⟩ := member
    rw [keys_cons, List.mem_cons, not_or] at absent
    have no : ¬ (key, w) ∈ done := fun member => absent.2 (mem_keys.mpr ⟨_, member⟩)
    rw [putMember]
    split
    · simp [absent.1, no]
    · rw [if_neg absent.1, List.mem_cons, ih absent.2]
      simp [absent.1]

theorem mem_canonicalMembers_other (absent : key ∉ keys members) :
    (key, w) ∈ canonicalMembers members done ↔ (key, w) ∈ done := by
  induction members generalizing done with
  | nil => rw [canonicalMembers]
  | cons member members ih =>
    obtain ⟨next, x⟩ := member
    rw [keys_cons, List.mem_cons, not_or] at absent
    rw [canonicalMembers, ih absent.2, mem_putMember_other absent.1]

theorem canonicalMembers_append (before after done : List (String × Value)) :
    canonicalMembers (before ++ after) done = canonicalMembers after (canonicalMembers before done) := by
  induction before generalizing done with
  | nil => rw [List.nil_append, canonicalMembers]
  | cons member before ih =>
    obtain ⟨key, v⟩ := member
    rw [List.cons_append, canonicalMembers, ih, canonicalMembers]

/-- A member that comes at most once is in the document, with its value in canonical form. -/
theorem mem_document (once : (keys members).count key ≤ 1) :
    (key, w) ∈ document members ↔ ∃ v, (key, v) ∈ members ∧ v.canonical = w := by
  rcases Nat.le_one_iff_eq_zero_or_eq_one.mp once with zero | one
  · have absent := List.count_eq_zero.mp zero
    rw [document, mem_canonicalMembers_other absent]
    constructor
    · nofun
    · rintro ⟨v, member, -⟩
      exact absurd (mem_keys.mpr ⟨_, member⟩) absent
  · obtain ⟨before, v, after, rfl, absentBefore, absentAfter⟩ := exists_member one
    have fresh : key ∉ keys (canonicalMembers before []) := by
      intro member
      obtain ⟨w, member⟩ := mem_keys.mp member
      rw [mem_canonicalMembers_other absentBefore] at member
      cases member
    rw [document, canonicalMembers_append, canonicalMembers, mem_canonicalMembers_other absentAfter,
      mem_putMember_same fresh]
    constructor
    · rintro rfl
      exact ⟨v, by simp, rfl⟩
    · rintro ⟨w, member, rfl⟩
      rw [(mem_once absentBefore absentAfter).mp member]

theorem canonical_eq_str {s : String} : v.canonical = .str s ↔ v = .str s := by
  cases v <;> simp [Value.canonical]

end Documents

/-! ### Decoding -/

/-- The member that carries the argument of a primitive. -/
def Command.field? : Command → Option String
  | .userInput => some "label"
  | .sendToEngine => some "value"
  | .receiveFromEngine => none
  | .userOutput => some "value"

/-- The request of a primitive has the argument that the document carries for it: a string as a label, any value
as a payload. -/
inductive Carries (document : List (String × Value)) : Command → Request → Prop
  | userInput {label} (field : ("label", .str label) ∈ document) :
      Carries document .userInput (.userInput label)
  | sendToEngine {v} (field : ("value", v) ∈ document) : Carries document .sendToEngine (.sendToEngine v)
  | receiveFromEngine : Carries document .receiveFromEngine .receiveFromEngine
  | userOutput {v} (field : ("value", v) ∈ document) : Carries document .userOutput (.userOutput v)

/-- A text that the JSON reader reads as an object, with one `cmd` and no `label` or `value` twice. -/
structure Tagged (text : String) (members : List (String × Value)) : Prop where
  accepted : Json.parse text = .ok (.obj members)
  cmd : (keys members).count "cmd" = 1
  label : (keys members).count "label" ≤ 1
  value : (keys members).count "value" ≤ 1

theorem ofName?_eq_some {name : String} {command : Command} :
    Command.ofName? name = some command ↔ name = command.name := by
  constructor
  · intro found
    rw [Command.ofName?] at found
    have named := List.find?_some found
    exact (beq_iff_eq.mp named).symm
  · rintro rfl
    cases command <;> decide

theorem ofValue?_eq_some {v : Value} {command : Command} :
    Command.ofValue? v = some command ↔ v = .str command.name := by
  cases v <;> simp [Command.ofValue?, ofName?_eq_some]

theorem labelOf_eq_ok {v : Value} {label : String} : labelOf v = .ok label ↔ v = .str label := by
  cases v <;> simp [labelOf]

section Decoding
variable {text : String} {members before after : List (String × Value)} {command : Command} {request : Request}
variable {key : String} {v : Value}

/-- The command makes no difference to the other members. -/
theorem oneMember_besides {α : Type} {read : Value → Except Mismatch α} {a : α} (different : key ≠ "cmd")
    (once : (keys (before ++ ("cmd", v) :: after)).count key ≤ 1) :
    oneMember key read (before ++ after) none = .ok a ↔
      ∃ w, (key, w) ∈ before ++ ("cmd", v) :: after ∧ read w = .ok a := by
  have apart : ("cmd" == key) = false := beq_false_of_ne (Ne.symm different)
  have once : (keys (before ++ after)).count key ≤ 1 := by
    simpa [keys, List.count_append, List.count_cons, apart] using once
  rw [oneMember_eq_ok once]
  simp [different]

theorem label_eq_ok {label : String} (once : (keys (before ++ ("cmd", v) :: after)).count "label" ≤ 1) :
    oneMember "label" labelOf (before ++ after) none = .ok label ↔
      ("label", .str label) ∈ document (before ++ ("cmd", v) :: after) := by
  rw [oneMember_besides (by decide) once, mem_document once]
  simp only [labelOf_eq_ok, canonical_eq_str]

theorem payload_eq_ok {w : Value} (once : (keys (before ++ ("cmd", v) :: after)).count "value" ≤ 1) :
    oneMember "value" payloadOf (before ++ after) none = .ok w ↔
      ("value", w) ∈ document (before ++ ("cmd", v) :: after) := by
  rw [oneMember_besides (by decide) once, mem_document once]
  simp only [payloadOf, Except.ok.injEq]

theorem ofMembers_eq_ok (label : (keys (before ++ ("cmd", v) :: after)).count "label" ≤ 1)
    (value : (keys (before ++ ("cmd", v) :: after)).count "value" ≤ 1) :
    Request.ofMembers command (before ++ after) = .ok request ↔
      Carries (document (before ++ ("cmd", v) :: after)) command request := by
  constructor
  · intro made
    cases command with
    | userInput =>
      obtain ⟨text, found, rfl⟩ := map_eq_ok made
      exact .userInput ((label_eq_ok label).mp found)
    | sendToEngine =>
      obtain ⟨w, found, rfl⟩ := map_eq_ok made
      exact .sendToEngine ((payload_eq_ok value).mp found)
    | receiveFromEngine =>
      cases made
      exact .receiveFromEngine
    | userOutput =>
      obtain ⟨w, found, rfl⟩ := map_eq_ok made
      exact .userOutput ((payload_eq_ok value).mp found)
  · intro carries
    cases carries with
    | userInput field => rw [Request.ofMembers, (label_eq_ok label).mpr field, Except.map]
    | sendToEngine field => rw [Request.ofMembers, (payload_eq_ok value).mpr field, Except.map]
    | receiveFromEngine => rw [Request.ofMembers]
    | userOutput field => rw [Request.ofMembers, (payload_eq_ok value).mpr field, Except.map]

theorem parse_eq_ok (tagged : Tagged text members) :
    Request.parse text = .ok request ↔
      ∃ command, ("cmd", .str command.name) ∈ document members ∧ Carries (document members) command request := by
  have once := tagged.cmd
  have parsed := parse_toOption tagged.accepted
  obtain ⟨before, v, after, rfl, absentBefore, absentAfter⟩ := exists_member once
  have named : ∀ command : Command,
      ("cmd", .str command.name) ∈ document (before ++ ("cmd", v) :: after) ↔
        Command.ofValue? v = some command := by
    intro command
    rw [mem_document (Nat.le_of_eq once), ofValue?_eq_some]
    simp only [mem_once absentBefore absentAfter, exists_eq_left, canonical_eq_str]
  rw [siftMembers_once absentBefore absentAfter] at parsed
  rw [← toOption_eq_some, parsed]
  simp only [named, ← ofMembers_eq_ok tagged.label tagged.value, ← toOption_eq_some]
  cases Command.ofValue? v <;> simp

end Decoding

def SameRequest (document other : List (String × Value)) : Prop :=
  (∀ v, ("cmd", v) ∈ document ↔ ("cmd", v) ∈ other) ∧
  ∀ command : Command, ("cmd", .str command.name) ∈ document →
    ∀ field ∈ command.field?, ∀ v, (field, v) ∈ document ↔ (field, v) ∈ other

theorem Carries.of_field {document other : List (String × Value)} {command : Command} {request : Request}
    (within : ∀ field ∈ command.field?, ∀ v, (field, v) ∈ document → (field, v) ∈ other)
    (carries : Carries document command request) : Carries other command request := by
  cases carries with
  | userInput field => exact .userInput (within _ rfl _ field)
  | sendToEngine field => exact .sendToEngine (within _ rfl _ field)
  | receiveFromEngine => exact .receiveFromEngine
  | userOutput field => exact .userOutput (within _ rfl _ field)

theorem toOption_congr {ε α : Type} {result other : Except ε α} (same : ∀ a, result = .ok a ↔ other = .ok a) :
    result.toOption = other.toOption := by
  refine Option.ext fun a => ?_
  rw [toOption_eq_some, toOption_eq_some, same]

theorem same_result {text text' : String} {members members' : List (String × Value)}
    (tagged : Tagged text members) (tagged' : Tagged text' members')
    (same : SameRequest (document members) (document members')) :
    (Request.parse text').toOption = (Request.parse text).toOption := by
  obtain ⟨sameCommand, sameField⟩ := same
  refine toOption_congr fun request => ?_
  rw [parse_eq_ok tagged, parse_eq_ok tagged']
  constructor
  · rintro ⟨command, named, carries⟩
    rw [← sameCommand] at named
    exact ⟨command, named, carries.of_field fun field is v => (sameField command named field is v).mpr⟩
  · rintro ⟨command, named, carries⟩
    exact ⟨command, (sameCommand _).mp named,
      carries.of_field fun field is v => (sameField command named field is v).mp⟩

/-- The request of an object is its command with the argument that the document carries for it, and there is no
request without such a command and argument. The order of the members, other members, and the blanks between
tokens make no difference. -/
theorem parse_by_members {text : String} {members : List (String × Value)} (tagged : Tagged text members) :
    (∀ request, Request.parse text = .ok request ↔
      ∃ command, ("cmd", .str command.name) ∈ document members ∧ Carries (document members) command request) ∧
    (∀ text' members', Tagged text' members' → SameRequest (document members) (document members') →
      (Request.parse text').toOption = (Request.parse text).toOption) ∧
    ∀ text' v, Json.parse text' = .ok v → tighten text' = tighten text →
      (Request.parse text').toOption = (Request.parse text).toOption := by
  refine ⟨fun request => parse_eq_ok tagged, fun text' members' => same_result tagged, ?_⟩
  intro text' v accepted spacing
  have same : v = .obj members := by
    have tightened := parse_tighten accepted
    rw [spacing, parse_tighten tagged.accepted] at tightened
    exact (Except.ok.inj tightened).symm
  have tagged' : Tagged text' members := ⟨same ▸ accepted, tagged.cmd, tagged.label, tagged.value⟩
  exact same_result tagged tagged' ⟨fun v => Iff.rfl, fun command named field is v => Iff.rfl⟩

/-- An object whose command comes last, behind a member that no primitive has. -/
def tagLast : String :=
  "\x7b \"more\": [\x7b\"cmd\": 1\x7d], \"value\": \x7b\"b\": true, \"a\": null\x7d,\t\"cmd\" : \"user_output\" \x7d"

def tagLastMembers : List (String × Value) :=
  [("more", .arr [.obj [("cmd", .int 1)]]), ("value", .obj [("b", .bool true), ("a", .null)]),
    ("cmd", .str "user_output")]

/-- The same request with its command first, an escape in it, and a member of another primitive. -/
def tagFirst : String :=
  "\x7b\"cmd\":\"user\\u005foutput\",\"label\":7,\"value\":\x7b\"a\":null,\"b\":true\x7d\x7d"

def tagFirstMembers : List (String × Value) :=
  [("cmd", .str "user_output"), ("label", .int 7), ("value", .obj [("a", .null), ("b", .bool true)])]

theorem parse_by_members_shuffled :
    Tagged tagLast tagLastMembers ∧ Tagged tagFirst tagFirstMembers ∧
    Request.parse tagLast = .ok (.userOutput (.obj [("a", .null), ("b", .bool true)])) ∧
    (Request.parse tagFirst).toOption = (Request.parse tagLast).toOption ∧
    (Request.parse (tighten tagLast)).toOption = (Request.parse tagLast).toOption := by
  have last : Tagged tagLast tagLastMembers := ⟨rfl, by decide, by decide, by decide⟩
  have first : Tagged tagFirst tagFirstMembers := ⟨rfl, by decide, by decide, by decide⟩
  have lastDocument : document tagLastMembers =
      [("cmd", .str "user_output"), ("more", .arr [.obj [("cmd", .int 1)]]),
        ("value", .obj [("a", .null), ("b", .bool true)])] := rfl
  have firstDocument : document tagFirstMembers =
      [("cmd", .str "user_output"), ("label", .int 7), ("value", .obj [("a", .null), ("b", .bool true)])] := rfl
  have same : SameRequest (document tagLastMembers) (document tagFirstMembers) := by
    rw [lastDocument, firstDocument]
    refine ⟨fun v => by simp, fun command named field is v => ?_⟩
    obtain rfl : command = .userOutput := by cases command <;> simp [Command.name] at named ⊢
    cases is
    simp
  obtain ⟨decodes, members, blanks⟩ := parse_by_members last
  refine ⟨last, first, (decodes _).mpr ⟨.userOutput, ?_, .userOutput ?_⟩, members _ _ first same,
    blanks _ _ (parse_tighten last.accepted) (tighten_tighten tagLast)⟩
  · rw [lastDocument]
    exact List.mem_cons_self ..
  · simp [lastDocument]

end PartyBridge.Driver
