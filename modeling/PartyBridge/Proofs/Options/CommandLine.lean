import Mathlib.Data.List.Induction
import PartyBridge.Options.CommandLine
import PartyBridge.Proofs.Text.Integer
import PartyBridge.Proofs.Text.Utf8

/-!
# Options, variables and defaults

Options with values behind equals signs may stand in any order in front of the two dashes. Each setting comes from the
option that is given, otherwise from the variable that stands in for it, and otherwise it is the default
(`command_line_settings`).
-/

namespace PartyBridge.Options

/-- An option on a command line, with its value. A path has a first byte. -/
inductive Given where
  | engine (text : String)
  | engineArg (text : String)
  | driverDir (first : UInt8) (rest : Bytes)
  | driverCommand (text : String)
  | marker (text : String)
  | receiveTimeout (ms : UInt64)
  | shutdownGrace (ms : UInt64)
  | exitCloseGrace (ms : UInt64)
  | logs
  | noLogs
  | logContent
  | logTimings
deriving DecidableEq

namespace Given

def parameter : Given → Parameter
  | .engine _ => .engine
  | .engineArg _ => .engineArg
  | .driverDir _ _ => .driverDir
  | .driverCommand _ => .driverCommand
  | .marker _ => .marker
  | .receiveTimeout _ => .receiveTimeout
  | .shutdownGrace _ => .shutdownGrace
  | .exitCloseGrace _ => .exitCloseGrace
  | .logs => .logs
  | .noLogs => .noLogs
  | .logContent => .logContent
  | .logTimings => .logTimings

def text? : Given → Option String
  | .engine text | .engineArg text | .driverCommand text | .marker text => some text
  | _ => none

def path? : Given → Option Bytes
  | .driverDir first rest => some (first :: rest)
  | _ => none

def time? : Given → Option Nat
  | .receiveTimeout ms | .shutdownGrace ms | .exitCloseGrace ms => some ms.toNat
  | _ => none

/-- A switch that is given is on. -/
def switch? : Given → Option Bool
  | .logs | .noLogs | .logContent | .logTimings => some true
  | _ => none

/-- The bytes of the value; switches have none. -/
def bytes? (g : Given) : Option Bytes :=
  (g.text?.map Utf8.encode).or (g.path?.or (g.time?.map fun ms => Utf8.encode (Text.decimalNat ms)))

def name (g : Given) : Bytes :=
  Utf8.encode (g.parameter.name?.getD "")

/-- The option as it is written: its name behind two dashes, and its value behind an equals sign. -/
def argument (g : Given) : Bytes :=
  45 :: 45 :: (g.name ++ g.bytes?.elim [] (61 :: ·))

end Given

def chosen {α : Type} (p : Parameter) (pick : Given → Option α) (given : List Given) : Option α :=
  given.findSome? fun g => if g.parameter = p then pick g else none

def allChosen {α : Type} (p : Parameter) (pick : Given → Option α) (given : List Given) : List α :=
  given.filterMap fun g => if g.parameter = p then pick g else none

def standInValue (environment : List (String × Bytes)) (p : Parameter) : Option Bytes :=
  p.standIn? >>= lookupVariable environment

def readSwitch? (value : Bytes) : Option Bool :=
  if value = Utf8.encode "true" then some true
  else if value = Utf8.encode "false" then some false
  else none

/-- Whether a variable that stands in for a parameter has a value that can be read. -/
def readable (p : Parameter) (value : Bytes) : Bool :=
  if p.takesValue then (Utf8.decode? value).isSome else (readSwitch? value).isSome

/-- What is given, or else what the variable says that stands in. -/
def settled {α : Type} (given : List Given) (environment : List (String × Bytes)) (p : Parameter)
    (pick : Given → Option α) (read : Bytes → Option α) : Option α :=
  (chosen p pick given).or (standInValue environment p >>= read)

/-- The settings that options ask for in an environment. -/
def askedFor (party : UInt32) (program : Bytes) (given : List Given) (environment : List (String × Bytes)) :
    Settings :=
  let text p := settled given environment p Given.text? Utf8.decode?
  let time p := chosen p Given.time? given
  let switch p := settled given environment p Given.switch? readSwitch?
  { party := party.toNat
    program
    engine := (text .engine).getD defaultEngine
    engineArgs := allChosen .engineArg Given.text? given
    driverDir := chosen .driverDir Given.path? given
    driverCommand := text .driverCommand
    marker := (chosen .marker Given.text? given).getD defaultMarker
    receiveTimeout := time .receiveTimeout
    shutdownGrace := time .shutdownGrace
    exitCloseGrace := (time .exitCloseGrace).getD defaultExitCloseGrace
    logs := (switch .logs).getD false
    noLogs := (switch .noLogs).getD false
    logContent := (switch .logContent).getD false
    logTimings := (chosen .logTimings Given.switch? given).getD false }

section Chosen
variable {α : Type} {p : Parameter} {pick : Given → Option α}

theorem chosen_concat (given : List Given) (g : Given) :
    chosen p pick (given ++ [g]) = (chosen p pick given).or (if g.parameter = p then pick g else none) := by
  simp [chosen]

theorem allChosen_concat (given : List Given) (g : Given) :
    allChosen p pick (given ++ [g]) = allChosen p pick given ++ (if g.parameter = p then pick g else none).toList := by
  unfold allChosen
  rw [List.filterMap_append]
  simp only [List.filterMap_cons, List.filterMap_nil]
  split <;> simp [*]

theorem chosen_eq_none (pick : Given → Option α) {given : List Given} (absent : ∀ g ∈ given, g.parameter ≠ p) :
    chosen p pick given = none := by
  rw [chosen, List.findSome?_eq_none_iff]
  intro g member
  exact if_neg (absent g member)

theorem isSome_chosen {given : List Given} (picks : ∀ g, g.parameter = p → (pick g).isSome) :
    (chosen p pick given).isSome ↔ ∃ g ∈ given, g.parameter = p := by
  rw [chosen, List.findSome?_isSome_iff]
  constructor
  · rintro ⟨g, member, found⟩
    refine ⟨g, member, ?_⟩
    by_contra other
    simp [other] at found
  · rintro ⟨g, member, same⟩
    exact ⟨g, member, by rw [if_pos same]; exact picks g same⟩

end Chosen

/-! ### One option -/

namespace Parameter
variable {p : Parameter} {name : String}

theorem ofName?_name (named : p.name? = some name) : ofName? name = some p := by
  cases p <;> cases named <;> rfl

/-- Names are not empty and have no equals sign. -/
theorem name_plain (named : p.name? = some name) : Utf8.encode name ≠ [] ∧ 61 ∉ Utf8.encode name := by
  cases p <;> cases named <;> decide

end Parameter

namespace Given

def taken (g : Given) : Bytes :=
  g.bytes?.getD (Utf8.encode "true")

theorem name_spec (g : Given) : ∃ name, g.parameter.name? = some name ∧ g.name = Utf8.encode name := by
  have named : ∃ name, g.parameter.name? = some name := by cases g <;> exact ⟨_, rfl⟩
  obtain ⟨name, named⟩ := named
  exact ⟨name, named, by rw [Given.name, named]; rfl⟩

theorem decode?_name (g : Given) : (Utf8.decode? g.name >>= Parameter.ofName?) = some g.parameter := by
  obtain ⟨name, named, written⟩ := g.name_spec
  rw [written, Utf8.decode?_encode]
  exact Parameter.ofName?_name named

theorem name_plain (g : Given) : g.name ≠ [] ∧ 61 ∉ g.name := by
  obtain ⟨name, named, written⟩ := g.name_spec
  rw [written]
  exact Parameter.name_plain named

theorem takesValue (g : Given) : g.parameter.takesValue = g.bytes?.isSome := by
  cases g <;> rfl

end Given

namespace Scan

theorem takeWhile_plain {name : Bytes} (plain : 61 ∉ name) (rest : Bytes) :
    (name ++ rest).takeWhile (· != 61) = name ++ rest.takeWhile (· != 61) :=
  List.takeWhile_append_of_pos fun _ member => bne_iff_ne.mpr fun same => plain (same ▸ member)

theorem cutAtEquals_value {name : Bytes} (plain : 61 ∉ name) (value : Bytes) :
    cutAtEquals (name ++ 61 :: value) = (name, some value) := by
  simp [cutAtEquals, takeWhile_plain plain]

theorem cutAtEquals_plain {name : Bytes} (plain : 61 ∉ name) : cutAtEquals name = (name, none) := by
  have whole := takeWhile_plain plain []
  rw [List.append_nil, List.takeWhile_nil, List.append_nil] at whole
  simp [cutAtEquals, whole]

variable {s : Scan}

theorem longOption_given (g : Given) :
    s.longOption (g.name ++ g.bytes?.elim [] (61 :: ·)) = s.take g.parameter g.taken := by
  have takes := g.takesValue
  cases given : g.bytes? with
  | none =>
    rw [given] at takes
    simp [longOption, cutAtEquals_plain g.name_plain.2, g.decode?_name, takes, Given.taken, given]
  | some value =>
    rw [given] at takes
    simp [longOption, cutAtEquals_value g.name_plain.2, g.decode?_name, takes, Given.taken, given]

/-- An option is taken at once. -/
theorem argument_given (early : s.onlyPositionals = false) (free : s.held = none) (g : Given) :
    s.argument g.argument = s.take g.parameter g.taken := by
  obtain ⟨b, rest, name⟩ := List.exists_cons_of_ne_nil g.name_plain.1
  rw [← longOption_given, Given.argument, name]
  simp [argument, early, takesAnything, free]

end Scan

/-! ### Many options -/

/-- What options that are given leave behind. -/
def draftOf (given : List Given) : Draft :=
  { Draft.empty with
    engine := chosen .engine Given.text? given
    engineArgs := allChosen .engineArg Given.text? given
    driverDir := chosen .driverDir Given.path? given
    driverCommand := chosen .driverCommand Given.text? given
    marker := chosen .marker Given.text? given
    receiveTimeout := chosen .receiveTimeout Given.time? given
    shutdownGrace := chosen .shutdownGrace Given.time? given
    exitCloseGrace := chosen .exitCloseGrace Given.time? given
    logs := chosen .logs Given.switch? given
    noLogs := chosen .noLogs Given.switch? given
    logContent := chosen .logContent Given.switch? given
    logTimings := chosen .logTimings Given.switch? given }

theorem textOf_encode (text : String) : Draft.textOf (Utf8.encode text) = .ok text := by
  simp [Draft.textOf, Utf8.decode?_encode]

theorem timeOf_decimal (p : Parameter) (ms : UInt64) :
    Draft.timeOf p (Utf8.encode (Text.decimalNat ms.toNat)) = .ok ms.toNat := by
  have within : ms.toNat ≤ Text.greatestUInt64 := Nat.le_of_lt_succ ms.toNat_lt
  simp [Draft.timeOf, textOf_encode, Text.readUnsigned_decimalNat within, bind, Except.bind]

/-- A draft has what is given. -/
theorem has_draftOf_iff {given : List Given} {p : Parameter} :
    (draftOf given).has p ↔ ∃ g ∈ given, g.parameter = p := by
  cases p with
  | party | program | help | version =>
    refine ⟨nofun, ?_⟩
    rintro ⟨g, -, same⟩
    cases g <;> cases same
  | engineArg =>
    have listed : (draftOf given).has .engineArg ↔ ∃ text, text ∈ allChosen .engineArg Given.text? given := by
      simp [Draft.has, draftOf, List.eq_nil_iff_forall_not_mem]
    rw [listed]
    constructor
    · rintro ⟨text, member⟩
      obtain ⟨g, member, found⟩ := List.mem_filterMap.mp member
      refine ⟨g, member, ?_⟩
      by_contra other
      simp [other] at found
    · rintro ⟨g, member, same⟩
      cases g with
      | engineArg text => exact ⟨text, List.mem_filterMap.mpr ⟨.engineArg text, member, rfl⟩⟩
      | _ => cases same
  | _ => exact isSome_chosen fun g same => by cases g <;> cases same; rfl

section Assign
attribute [local simp] Draft.assign Draft.pathOf Draft.switchOf Given.taken Given.bytes? Given.parameter Given.text?
  Given.path? Given.time? Given.switch? bind Except.bind pure Except.pure draftOf chosen_concat allChosen_concat
  textOf_encode timeOf_decimal

/-- One more option, which has not been given before unless it is an argument for the engine. -/
theorem assign_given {given : List Given} {g : Given}
    (new : g.parameter ≠ .engineArg → ∀ earlier ∈ given, earlier.parameter ≠ g.parameter) :
    (draftOf given).assign g.parameter g.taken = .ok (draftOf (given ++ [g])) := by
  cases g <;> dsimp only [Given.parameter] at new
  case engineArg => simp
  case engine | driverCommand | marker => simp [chosen_eq_none Given.text? (new nofun)]
  case driverDir => simp [chosen_eq_none Given.path? (new nofun)]
  case receiveTimeout | shutdownGrace | exitCloseGrace => simp [chosen_eq_none Given.time? (new nofun)]
  case logs | noLogs | logContent | logTimings => simp [chosen_eq_none Given.switch? (new nofun)]

end Assign

theorem give_given {given : List Given} {g : Given}
    (new : g.parameter ≠ .engineArg → ∀ earlier ∈ given, earlier.parameter ≠ g.parameter) :
    (draftOf given).give g.parameter g.taken = .ok (draftOf (given ++ [g])) := by
  have first : ¬ (g.parameter ≠ .engineArg ∧ (draftOf given).has g.parameter) := by
    rintro ⟨other, has⟩
    obtain ⟨earlier, member, same⟩ := has_draftOf_iff.mp has
    exact new other earlier member same
  rw [Draft.give, if_neg first, assign_given new]

/-- Every option is given once, arguments for the engine any number of times. -/
def Once (given : List Given) : Prop :=
  given.Pairwise fun g g' => g.parameter = g'.parameter → g.parameter = .engineArg

theorem Once.new {given : List Given} {g : Given} (once : Once (given ++ [g])) :
    g.parameter ≠ .engineArg → ∀ earlier ∈ given, earlier.parameter ≠ g.parameter := by
  intro other earlier member same
  have apart := (List.pairwise_append.mp once).2.2 earlier member g (List.mem_singleton.mpr rfl)
  exact other (same ▸ apart same)

theorem scan_given {given : List Given} (once : Once given) :
    (given.map Given.argument).foldlM Scan.argument Scan.start = .ok { Scan.start with draft := draftOf given } := by
  induction given using List.reverseRecOn with
  | nil => rfl
  | append_singleton given g ih =>
    -- Arguments are read from the left, so the last option meets the draft of all the others.
    have earlier : Once given := (List.pairwise_append.mp once).1
    rw [List.map_append, List.foldlM_append, ih earlier]
    have taken : Scan.argument { Scan.start with draft := draftOf given } g.argument =
        .ok { Scan.start with draft := draftOf (given ++ [g]) } := by
      rw [Scan.argument_given rfl rfl]
      simp [Scan.take, Scan.settle, Scan.start, give_given once.new, bind, Except.bind, pure, Except.pure]
    simp [taken, bind, Except.bind, pure, Except.pure]

/-! ### Positional parameters -/

theorem partyOf_decimal (party : UInt32) :
    Draft.partyOf (Utf8.encode (Text.decimalNat party.toNat)) = .ok party.toNat := by
  have bound := party.toNat_lt
  have above : Text.leastInt64 ≤ (party.toNat : Int) := by unfold Text.leastInt64; omega
  have below : (party.toNat : Int) ≤ Text.greatestInt64 := by unfold Text.greatestInt64; omega
  have inRange : (party.toNat : Int) ≤ Draft.maxParty := by unfold Draft.maxParty; omega
  have read : Text.readSigned Text.leastInt64 Text.greatestInt64 (Text.decimalNat party.toNat).toList =
      .ok (party.toNat : Int) := Text.readSigned_decimal above below
  simp [Draft.partyOf, textOf_encode, read, inRange, bind, Except.bind]

/-- What stands behind the options: two dashes, the party and the program. -/
def positionalArguments (party : UInt32) (program : Bytes) : List Bytes :=
  [Utf8.encode "--", Utf8.encode (Text.decimalNat party.toNat), program]

theorem Scan.argument_positional {s : Scan} (late : s.onlyPositionals = true) (text : Bytes) :
    s.argument text = s.positional text := by
  simp [Scan.argument, Scan.value, late]

theorem give_party {draft : Draft} (unset : draft.party = none) (party : UInt32) :
    draft.give .party (Utf8.encode (Text.decimalNat party.toNat)) = .ok { draft with party := some party.toNat } := by
  simp [Draft.give, Draft.has, Draft.assign, unset, partyOf_decimal, bind, Except.bind, pure, Except.pure]

theorem give_program {draft : Draft} (unset : draft.program = none) {program : Bytes} (filled : program ≠ []) :
    draft.give .program program = .ok { draft with program := some program } := by
  simp [Draft.give, Draft.has, Draft.assign, Draft.pathOf, unset, filled, bind, Except.bind, pure, Except.pure]

/-- The party is examined when the program comes, and the program at the end. -/
theorem scan_positionals {draft : Draft} (unset : draft.party = none ∧ draft.program = none) (party : UInt32)
    {program : Bytes} (filled : program ≠ []) :
    (positionalArguments party program).foldlM Scan.argument { Scan.start with draft } >>= Scan.settle =
      .ok ⟨{ draft with party := some party.toNat, program := some program }, none, false, [], true⟩ := by
  let digits := Utf8.encode (Text.decimalNat party.toNat)
  let withParty : Draft := { draft with party := some party.toNat }
  have dashes : Scan.argument { Scan.start with draft } (Utf8.encode "--") =
      .ok ⟨draft, none, false, Parameter.positionals, true⟩ := rfl
  have first : Scan.argument ⟨draft, none, false, Parameter.positionals, true⟩ digits =
      .ok ⟨draft, some (.party, some digits), false, [.program], true⟩ := rfl
  have second : Scan.argument ⟨draft, some (.party, some digits), false, [.program], true⟩ program =
      .ok ⟨withParty, some (.program, some program), false, [], true⟩ := by
    simp [Scan.argument_positional, Scan.positional, Scan.hold, Scan.settle, Except.map, digits, withParty,
      give_party unset.1]
  have last : Scan.settle ⟨withParty, some (.program, some program), false, [], true⟩ =
      .ok ⟨{ withParty with program := some program }, none, false, [], true⟩ := by
    have still : withParty.program = none := unset.2
    simp [Scan.settle, Except.map, give_program still filled]
  change [Utf8.encode "--", digits, program].foldlM Scan.argument _ >>= Scan.settle = _
  simp only [List.foldlM_cons, List.foldlM_nil, dashes, first, second, bind, Except.bind, pure, Except.pure]
  exact last

/-! ### Variables -/

section Variables
variable {environment : List (String × Bytes)} {d : Draft}

theorem fillIn_eq (p : Parameter) :
    fillIn environment d p =
      if d.has p then .ok d
      else
        match standInValue environment p with
        | some value => d.assign p value
        | none => .ok d := rfl

theorem fillIn_none {p : Parameter} (none : p.standIn? = none) : fillIn environment d p = .ok d := by
  have unset : standInValue environment p = Option.none := by rw [standInValue, none]; rfl
  rw [fillIn_eq, unset]
  exact ite_self _

/-- A parameter that has a variable is filled in if it is empty and the variable is set. -/
theorem fillIn_slot {α : Type} {p : Parameter} (slot : Option α) (put : Option α → Draft) (read : Bytes → Option α)
    (has : d.has p = slot.isSome) (kept : put slot = d)
    (assigns : ∀ {value a}, read value = some a → d.assign p value = .ok (put (some a)))
    (sound : slot = none → ∀ {value}, standInValue environment p = some value → (read value).isSome) :
    fillIn environment d p = .ok (put (slot.or (standInValue environment p >>= read))) := by
  rw [fillIn_eq, has]
  cases slot with
  | some a => simp [kept]
  | none =>
    cases set : standInValue environment p with
    | none => simp [kept]
    | some value =>
      obtain ⟨a, read⟩ := Option.isSome_iff_exists.mp (sound rfl set)
      simp [assigns read, read]

theorem textOf_of_decode {value : Bytes} {text : String} (decoded : Utf8.decode? value = some text) :
    Draft.textOf value = .ok text := by
  simp [Draft.textOf, decoded]

theorem switchOf_of_read {p : Parameter} {value : Bytes} {on : Bool} (read : readSwitch? value = some on) :
    Draft.switchOf p value = .ok on := by
  unfold readSwitch? at read
  unfold Draft.switchOf
  split at read
  · simp_all
  · split at read <;> simp_all

/-- The draft with what a variable says, unless the parameter was given. -/
def filledIn (environment : List (String × Bytes)) (d : Draft) : Parameter → Draft
  | .engine => { d with engine := d.engine.or (standInValue environment .engine >>= Utf8.decode?) }
  | .driverCommand =>
    { d with driverCommand := d.driverCommand.or (standInValue environment .driverCommand >>= Utf8.decode?) }
  | .logs => { d with logs := d.logs.or (standInValue environment .logs >>= readSwitch?) }
  | .noLogs => { d with noLogs := d.noLogs.or (standInValue environment .noLogs >>= readSwitch?) }
  | .logContent => { d with logContent := d.logContent.or (standInValue environment .logContent >>= readSwitch?) }
  | _ => d

theorem fillIn_readable {p : Parameter}
    (sound : d.has p = false → ∀ value, standInValue environment p = some value → readable p value) :
    fillIn environment d p = .ok (filledIn environment d p) := by
  have unset {α : Type} {slot : Option α} (has : d.has p = slot.isSome) (none : slot = none) : d.has p = false := by
    rw [has, none]
    rfl
  cases p with
  | engine =>
    refine fillIn_slot d.engine (fun engine => { d with engine }) Utf8.decode? rfl rfl (fun decoded => ?_)
      fun none value set => sound (unset rfl none) value set
    simp [Draft.assign, textOf_of_decode decoded, bind, Except.bind, pure, Except.pure]
  | driverCommand =>
    refine fillIn_slot d.driverCommand (fun driverCommand => { d with driverCommand }) Utf8.decode? rfl rfl
      (fun decoded => ?_) fun none value set => sound (unset rfl none) value set
    simp [Draft.assign, textOf_of_decode decoded, bind, Except.bind, pure, Except.pure]
  | logs =>
    refine fillIn_slot d.logs (fun logs => { d with logs }) readSwitch? rfl rfl (fun read => ?_)
      fun none value set => sound (unset rfl none) value set
    simp [Draft.assign, switchOf_of_read read, bind, Except.bind, pure, Except.pure]
  | noLogs =>
    refine fillIn_slot d.noLogs (fun noLogs => { d with noLogs }) readSwitch? rfl rfl (fun read => ?_)
      fun none value set => sound (unset rfl none) value set
    simp [Draft.assign, switchOf_of_read read, bind, Except.bind, pure, Except.pure]
  | logContent =>
    refine fillIn_slot d.logContent (fun logContent => { d with logContent }) readSwitch? rfl rfl (fun read => ?_)
      fun none value set => sound (unset rfl none) value set
    simp [Draft.assign, switchOf_of_read read, bind, Except.bind, pure, Except.pure]
  | _ => exact fillIn_none rfl

/-- What was given stays given. -/
theorem has_filledIn {p q : Parameter} (empty : (filledIn environment d q).has p = false) : d.has p = false := by
  cases q with
  | engine | driverCommand | logs | noLogs | logContent => cases p <;> simp_all [filledIn, Draft.has]
  | _ => exact empty

theorem fillIn_all (ps : List Parameter)
    (sound : ∀ p, d.has p = false → ∀ value, standInValue environment p = some value → readable p value) :
    ps.foldlM (fillIn environment) d = .ok (ps.foldl (filledIn environment) d) := by
  induction ps generalizing d with
  | nil => rfl
  | cons p ps ih =>
    rw [List.foldlM_cons, fillIn_readable (sound p)]
    -- Filling in makes fewer parameters empty, so less is asked of the variables that follow.
    exact ih fun q empty => sound q (has_filledIn empty)

end Variables

/-! ### Whole command lines -/

/-- A command line of options in any order, two dashes, the party and the program is always read. What is given is
taken as it is. What is not given is taken from its variable if that is set, and is the default otherwise. So a variable
can be anything where the option is given, and has to make sense only where it is not. -/
theorem command_line_settings (party : UInt32) {program : Bytes} (filled : program ≠ []) {given : List Given}
    (once : Once given) {environment : List (String × Bytes)}
    (sound : ∀ p, (∀ g ∈ given, g.parameter ≠ p) →
      ∀ value, standInValue environment p = some value → readable p value) :
    readCommandLine (given.map Given.argument ++ positionalArguments party program) environment =
      .ok (askedFor party program given environment) := by
  let draft : Draft := { draftOf given with party := some party.toNat, program := some program }
  have scanned : (given.map Given.argument ++ positionalArguments party program).foldlM Scan.argument Scan.start >>=
      Scan.settle = .ok ⟨draft, none, false, [], true⟩ := by
    rw [List.foldlM_append, scan_given once]
    exact scan_positionals ⟨rfl, rfl⟩ party filled
  have absent : ∀ p, draft.has p = false → ∀ g ∈ given, g.parameter ≠ p := by
    rintro p empty g member rfl
    have has : draft.has g.parameter = (draftOf given).has g.parameter := by cases g <;> rfl
    rw [has, has_draftOf_iff.mpr ⟨g, member, rfl⟩] at empty
    cases empty
  have fill := fillIn_all Parameter.options fun p empty => sound p (absent p empty)
  unfold readCommandLine
  rw [← bind_assoc, scanned]
  change (Parameter.options.foldlM (fillIn environment) draft >>= Draft.complete) = _
  rw [fill]
  rfl

/-- Options with values that look like options, hold equals signs or are empty. -/
def oddOptions : List Given :=
  [.engineArg "--engine", .logs, .marker "", .engineArg "a=b", .driverCommand "-u", .engineArg "", .driverDir 255 [],
    .receiveTimeout 18446744073709551615]

/-- One variable stands in, one is overruled and makes no sense, and one is a switch. -/
def oddVariables : List (String × Bytes) :=
  [("VIADUCT_ENGINE", Utf8.encode "=x"), ("VIADUCT_LOGS", Utf8.encode "maybe"), ("VIADUCT_NO_LOGS", Utf8.encode "true")]

theorem command_line_settings_odd :
    Once oddOptions ∧
    readCommandLine (oddOptions.map Given.argument ++ positionalArguments 4294967295 [45, 255]) oddVariables =
      .ok
        { party := 4294967295, program := [45, 255], engine := "=x", engineArgs := ["--engine", "a=b", ""],
          driverDir := some [255], driverCommand := some "-u", marker := "",
          receiveTimeout := some 18446744073709551615, shutdownGrace := none, exitCloseGrace := 1000,
          logs := true, noLogs := true, logContent := false, logTimings := false } := by
  have once : Once oddOptions := by
    unfold Once
    decide
  refine ⟨once, (command_line_settings 4294967295 (List.cons_ne_nil _ _) once ?_).trans (by decide +kernel)⟩
  intro p absent value set
  cases p with
  | engine | noLogs =>
    cases set
    decide +kernel
  | logs => exact absurd rfl (absent .logs (by decide))
  | _ => cases set

end PartyBridge.Options
