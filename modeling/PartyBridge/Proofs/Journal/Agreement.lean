import Mathlib.Data.List.Forall2
import PartyBridge.Journal.Note
import PartyBridge.Text.Integer

/-!
# Logs that agree

Two runs of the same thing do not leave the same log, since they take their time and their processes have
other numbers. Their logs agree line by line but for that.
-/

namespace PartyBridge.Journal

/-- Two lines of a log that differ at most in a time or in the number of a process. -/
inductive Agree : String → String → Prop where
  | same (line : String) : Agree line line
  | launched (pid pid' : Nat) (command : String) :
      Agree ("Engine launched (pid " ++ Text.decimalNat pid ++ "): " ++ command)
        ("Engine launched (pid " ++ Text.decimalNat pid' ++ "): " ++ command)
  | started (pid pid' : Nat) (name : String) :
      Agree ("Driver started (pid " ++ Text.decimalNat pid ++ "): " ++ name)
        ("Driver started (pid " ++ Text.decimalNat pid' ++ "): " ++ name)
  | engine (pid pid' : Nat) (told : String) :
      Agree ("Engine (pid " ++ Text.decimalNat pid ++ ") " ++ told)
        ("Engine (pid " ++ Text.decimalNat pid' ++ ") " ++ told)
  | unsignalled (signal group group' : Nat) (fault : String) :
      Agree ("Engine: failed to send signal " ++ Text.decimalNat signal ++ " to process group " ++
          Text.decimalNat group ++ ": " ++ fault)
        ("Engine: failed to send signal " ++ Text.decimalNat signal ++ " to process group " ++
          Text.decimalNat group' ++ ": " ++ fault)
  | finished (ms ms' : Nat) (rest : String) :
      Agree ("Session finished in " ++ Text.decimalNat ms ++ "ms: values=" ++ rest)
        ("Session finished in " ++ Text.decimalNat ms' ++ "ms: values=" ++ rest)

theorem Agree.event {text text' : String} (agree : Agree text text') :
    List.Forall₂ Agree (Level.events.messages [event text]) (Level.events.messages [event text']) :=
  .cons agree .nil

theorem agree_refl (lines : List String) : List.Forall₂ Agree lines lines :=
  List.forall₂_same.mpr fun line _ => .same line

/-- The line that tells of a failure has no time and no number of a process. -/
theorem agree_failed {rest line : String} (agree : Agree ("Driver failed: " ++ rest) line) :
    line = "Driver failed: " ++ rest := by
  -- the other lines that may differ do not begin like this one
  generalize known : "Driver failed: " ++ rest = told at agree
  have begins := congrArg (fun s => s.toList.take 8) known
  cases agree with
  | same => rfl
  | launched | started | engine | unsignalled | finished => simp [String.toList_append] at begins

theorem agree_told {log log' : List String} {rest : String} (agree : List.Forall₂ Agree log log')
    (told : "Driver failed: " ++ rest ∈ log) : "Driver failed: " ++ rest ∈ log' := by
  induction agree with
  | nil => cases told
  | @cons line line' log log' first _ ih =>
    obtain rfl | told := List.mem_cons.mp told
    · rw [agree_failed first]
      exact List.mem_cons_self
    · exact List.mem_cons_of_mem _ (ih told)

/-! ### Logs that grow -/

/-- Two logs go on with lines that agree one by one. -/
def Abreast (old old' new new' : List String) : Prop :=
  ∃ lines lines', new = old ++ lines ∧ new' = old' ++ lines' ∧ List.Forall₂ Agree lines lines'

variable {old old' mid mid' new new' : List String} {line line' : String}

namespace Abreast

theorem refl (old old' : List String) : Abreast old old' old old' :=
  ⟨[], [], by simp, by simp, .nil⟩

theorem trans (first : Abreast old old' mid mid') (second : Abreast mid mid' new new') :
    Abreast old old' new new' := by
  obtain ⟨lines, lines', rfl, rfl, agree⟩ := first
  obtain ⟨later, later', rfl, rfl, agree'⟩ := second
  exact ⟨lines ++ later, lines' ++ later', List.append_assoc .., List.append_assoc ..,
    List.rel_append agree agree'⟩

theorem agree (abreast : Abreast old old' new new') (begun : List.Forall₂ Agree old old') :
    List.Forall₂ Agree new new' := by
  obtain ⟨lines, lines', rfl, rfl, agree⟩ := abreast
  exact List.rel_append begun agree

end Abreast

/-- Two logs go on abreast but for one line. -/
def Parted (line line' : String) (old old' new new' : List String) : Prop :=
  ∃ mid mid', Abreast old old' mid mid' ∧ Abreast (mid ++ [line]) (mid' ++ [line']) new new'

theorem Parted.trans {later later' : List String} (parted : Parted line line' old old' new new')
    (abreast : Abreast new new' later later') : Parted line line' old old' later later' := by
  obtain ⟨mid, mid', before, after⟩ := parted
  exact ⟨mid, mid', before, after.trans abreast⟩

/-- The logs as a whole, where they agreed before. -/
theorem Parted.split (parted : Parted line line' old old' new new')
    (begun : List.Forall₂ Agree old old') :
    ∃ before before' after after', new = before ++ line :: after ∧ new' = before' ++ line' :: after' ∧
      List.Forall₂ Agree before before' ∧ List.Forall₂ Agree after after' := by
  obtain ⟨_, _, ⟨lines, lines', rfl, rfl, agree⟩, later, later', rfl, rfl, agree'⟩ := parted
  exact ⟨old ++ lines, old' ++ lines', later, later', by simp, by simp, List.rel_append begun agree,
    agree'⟩

/-- Logs that agree but for one line agree if those lines do. -/
theorem agree_split {before before' after after' : List String} (first : List.Forall₂ Agree before before')
    (rest : List.Forall₂ Agree after after') :
    List.Forall₂ Agree (before ++ line :: after) (before' ++ line' :: after') ↔ Agree line line' := by
  constructor
  · intro all
    have last := List.forall₂_drop before.length all
    rw [List.drop_left, first.length_eq, List.drop_left] at last
    cases last with
    | cons agree _ => exact agree
  · intro agree
    exact List.rel_append first (.cons agree rest)

end PartyBridge.Journal
