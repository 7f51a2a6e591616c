import PartyBridge.EngineOutput.Drain

/-!
# What a drain does with a line

A line with a value is offered to the queue and counted by what the queue said. Every other line leaves
the queue and those two counts as they are, and so does the end of the drain, which closes the queue.
-/

namespace PartyBridge.EngineOutput
open ByteStream

def lineValue? (marker : List Char) (bytes : Bytes) : Option Int64 :=
  match classify marker (lineText bytes) with
  | .value v => some v
  | .malformed | .untagged => none

def lineValues (marker : List Char) (lines : List Bytes) : List Int64 :=
  lines.filterMap (lineValue? marker)

theorem lineValue?_eq_some {marker : List Char} {bytes : Bytes} {v : Int64} :
    lineValue? marker bytes = some v ↔ classify marker (lineText bytes) = .value v := by
  unfold lineValue?
  cases classify marker (lineText bytes) <;> simp

theorem lineValue?_eq_none {marker : List Char} {bytes : Bytes} :
    lineValue? marker bytes = none ↔ ∀ v, classify marker (lineText bytes) ≠ .value v := by
  simp [Option.eq_none_iff_forall_ne_some, lineValue?_eq_some]

theorem lineValues_snoc (marker : List Char) (lines : List Bytes) (bytes : Bytes) :
    lineValues marker (lines ++ [bytes]) =
      lineValues marker lines ++ (lineValue? marker bytes).toList := by
  unfold lineValues
  cases found : lineValue? marker bytes <;> simp [found]

namespace Drain

variable {marker : List Char} {bytes : Bytes}

theorem line_value (d : Drain) {v : Int64} (kind : lineValue? marker bytes = some v) :
    (d.line marker bytes).queue = (d.queue.push v).1 ∧
    (d.line marker bytes).stats.values = d.stats.values + (d.queue.push v).2.toNat ∧
    (d.line marker bytes).stats.dropped = d.stats.dropped + (!(d.queue.push v).2).toNat := by
  rw [lineValue?_eq_some] at kind
  unfold line
  simp only [kind]
  split
  all_goals
    rename_i pushed
    simp [pushed]

theorem line_other (d : Drain) (kind : lineValue? marker bytes = none) :
    (d.line marker bytes).queue = d.queue ∧
    (d.line marker bytes).stats.values = d.stats.values ∧
    (d.line marker bytes).stats.dropped = d.stats.dropped := by
  unfold lineValue? at kind
  unfold line
  cases found : classify marker (lineText bytes) with
  | value v => simp [found] at kind
  | malformed | untagged => simp [found]

theorem finish_queue (d : Drain) (reason : CloseReason) :
    (d.finish reason).queue = (d.queue.close reason).1 := by
  unfold finish
  split
  all_goals
    rename_i closed
    rw [closed]

theorem finish_stats (d : Drain) (reason : CloseReason) : (d.finish reason).stats = d.stats := by
  unfold finish
  split <;> rfl

end Drain

end PartyBridge.EngineOutput
