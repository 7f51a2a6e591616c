import PartyBridge.Driver.Lookup
import PartyBridge.Options.Settings
import PartyBridge.Proofs.Text.Words

/-!
# What valid settings promise

Settings that are found valid have a marker that is a word, and a driver command that can be split into words.
Whether a loader takes these words is a question of its own: it wants a program, and the first word of a valid command
may be empty (`validated_command_taken_iff`).
-/

namespace PartyBridge.Driver.Loader

theorem create_cons (dir : Bytes) (program : String) (args : List String) :
    create dir (some (program :: args)) =
      if program = "" then .error (.invalidCommand "interpreter command is empty")
      else .ok ⟨dir, some (program :: args)⟩ := by
  split
  · rename_i empty
    rw [empty]
    rfl
  · rename_i filled
    unfold create
    split <;> simp_all

end PartyBridge.Driver.Loader

namespace PartyBridge.Options.Settings

theorem ite_some_eq_none {α : Type} {p : Prop} [Decidable p] {a : α} {other : Option α} :
    (if p then some a else other) = none ↔ ¬ p ∧ other = none := by
  split <;> simp [*]

theorem fault?_of_validate {settings accepted : Settings} (valid : settings.validate = .ok accepted) :
    accepted.fault? = none := by
  unfold validate at valid
  split at valid
  · cases valid
  · cases valid
    assumption

theorem validate_of_sound {settings : Settings} (normal : settings.normalized = settings)
    (sound : settings.fault? = none) : settings.validate = .ok settings := by
  simp only [validate, normal, sound]

/-- A marker that is accepted is a word. -/
theorem marker_of_validate {settings accepted : Settings} (valid : settings.validate = .ok accepted) :
    accepted.marker.toList ≠ [] ∧ ∀ c ∈ accepted.marker.toList, Text.isBlank c = false := by
  have sound := fault?_of_validate valid
  simp only [fault?, ite_some_eq_none] at sound
  obtain ⟨-, -, -, -, -, filled, -, plain, -⟩ := sound
  refine ⟨by simpa using filled, fun c member => ?_⟩
  simp only [List.any_eq_true, not_exists, not_and, Bool.or_eq_true, not_or, Bool.not_eq_true] at plain
  exact (plain c member).1

/-- The command that is accepted, if any, has a first word. -/
theorem driverWords_of_validate {settings accepted : Settings} (valid : settings.validate = .ok accepted) :
    accepted.driverCommand = none ∧ accepted.driverWords = .ok none ∨
    ∃ line program args, accepted.driverCommand = some line ∧
      accepted.driverWords = .ok (some (program :: args)) ∧
      (program = "" ↔ Text.StartsHollow (Text.trim line.toList)) := by
  have sound := fault?_of_validate valid
  simp only [fault?, ite_some_eq_none] at sound
  obtain ⟨-, -, -, -, -, -, -, -, sound⟩ := sound
  cases given : accepted.driverCommand with
  | none => exact .inl ⟨rfl, by simp only [driverWords, given]⟩
  | some line =>
    cases splits : Text.splitCommand line with
    | error fault => simp [driverCommandFault?, given, splits] at sound
    | ok parts =>
      obtain ⟨program, args, rfl, first⟩ := Text.splitCommand_cons splits
      refine .inr ⟨line, program, args, rfl, ?_, first⟩
      simp only [driverWords, given, splits, Except.map]

/-- The driver command of valid settings can be split into words. A loader takes these words unless the
command opens with empty quotes, which leave it without the name of a program. -/
theorem validated_command_taken_iff {settings accepted : Settings} (valid : settings.validate = .ok accepted) :
    ∃ words, accepted.driverWords = .ok words ∧
      (Driver.Loader.create accepted.driverDirectory words = .ok ⟨accepted.driverDirectory, words⟩ ↔
        ∀ line, accepted.driverCommand = some line → ¬ Text.StartsHollow (Text.trim line.toList)) ∧
      ∀ line, accepted.driverCommand = some line → Text.StartsHollow (Text.trim line.toList) →
        Driver.Loader.create accepted.driverDirectory words =
          .error (.invalidCommand "interpreter command is empty") := by
  obtain ⟨none, words⟩ | ⟨line, program, args, given, words, first⟩ := driverWords_of_validate valid
  · refine ⟨_, words, ?_, ?_⟩
    · simp [Driver.Loader.create, none]
    · simp [none]
  · refine ⟨_, words, ?_, ?_⟩
    · simp [Driver.Loader.create_cons, given, ← first]
    · intro line' given' hollow
      cases given.symm.trans given'
      simp [Driver.Loader.create_cons, first.mpr hollow]

def commanded (line : String) : Settings :=
  ⟨0, Utf8.encode "sum", defaultEngine, [], none, some line, defaultMarker, none, none, defaultExitCloseGrace,
    false, false, false, false⟩

theorem validated_command_taken_python :
    (commanded "python3 -u").validate = .ok (commanded "python3 -u") ∧
    ¬ Text.StartsHollow (Text.trim "python3 -u".toList) ∧
    Driver.Loader.create (Utf8.encode "sum") (some ["python3", "-u"]) =
      .ok ⟨Utf8.encode "sum", some ["python3", "-u"]⟩ := by
  have valid : (commanded "python3 -u").validate = .ok (commanded "python3 -u") :=
    validate_of_sound (by decide +kernel) (by decide +kernel)
  have split : (commanded "python3 -u").driverWords = .ok (some ["python3", "-u"]) := rfl
  obtain ⟨words, same, taken, -⟩ := validated_command_taken_iff valid
  cases split.symm.trans same
  have create := Driver.Loader.create_cons (Utf8.encode "sum") "python3" ["-u"]
  exact ⟨valid, taken.mp create _ rfl, create⟩

/-- Empty quotes are a valid command, and no loader takes it. -/
theorem empty_quotes_refused :
    (commanded "\x27\x27").validate = .ok (commanded "\x27\x27") ∧
    (commanded "\x27\x27").driverWords = .ok (some [""]) ∧
    Driver.Loader.create (commanded "\x27\x27").driverDirectory (some [""]) =
      .error (.invalidCommand "interpreter command is empty") :=
  ⟨validate_of_sound (by decide +kernel) (by decide +kernel), rfl, rfl⟩

end PartyBridge.Options.Settings
