import PartyBridge.Proofs.Bridge.Receive
import PartyBridge.Proofs.EngineOutput.Stream
import PartyBridge.Proofs.Ensemble.Lossless
import PartyBridge.Proofs.Ensemble.Release

/-!
# Output that arrives bit by bit

What the parties do does not depend on the lines that are yet to come, until the drain is out of its
loop. So a session may be followed while its output arrives (`Continues`), and in the end it is a run on
the whole output (`Continues.run`). `run_tallied` says what the counts of the drain and of the bridge add
up to.
-/

namespace PartyBridge.Ensemble
open ByteStream EngineOutput Engine

def Place.past : Place → Bool
  | .leaving _ | .finished => true
  | .checking | .reading | .holding _ => false

def State.expecting {κ : Type} (s : State κ) (more : List LineRead) : State κ :=
  { s with reads := s.reads ++ more }

-- what comes of a line does not hang on the lines after it, and unfolding it here would be slow
attribute [local irreducible] Drain.line

section Arrival
variable {κ : Type} [DecidableEq κ] {marker : List Char} {s s' t u : State κ}
variable {e : Option (Handoff.Event (Party κ))} {h : List (Handoff.Event (Party κ))}

omit [DecidableEq κ] in
theorem expecting_nil (s : State κ) : s.expecting [] = s := by
  simp [State.expecting]

omit [DecidableEq κ] in
theorem expecting_append (s : State κ) (more later : List LineRead) :
    (s.expecting more).expecting later = s.expecting (more ++ later) := by
  simp [State.expecting]

theorem step_past (step : Step marker s e s') (gone : s.place.past = true) : s'.place.past = true := by
  cases step with
  | check place | read place | fault place | ended place | offer place | skip place =>
    rw [place] at gone
    cases gone
  | leave place step => rfl
  | _ => exact gone

theorem run_past (run : Run (Step marker) s h s') (gone : s.place.past = true) :
    s'.place.past = true := by
  induction run with
  | refl => exact gone
  | tail _ step ih => exact step_past step ih

theorem step_expecting (more : List LineRead) (step : Step marker s e s')
    (working : s'.place.past = false) : Step marker (s.expecting more) e (s'.expecting more) := by
  cases step with
  | check place free => exact .check place free
  | read place next => exact .read place (by simp [State.expecting, next])
  | fault place next | ended place next | leave place step => cases working
  | offer place kind step => exact .offer place kind step
  | skip place kind => exact .skip place kind
  | hear answer free other => exact .hear answer free other
  | release ask step => exact .release ask step
  | raise idle free => exact .raise idle free
  | cancel due step => exact .cancel due step
  | call step => exact .call step
  | receive step => exact .receive step
  | perform call other free => exact .perform call other free
  | guest own step => exact .guest own step
  | quiet step => exact .quiet step

theorem run_expecting (more : List LineRead) (run : Run (Step marker) s h s')
    (working : s'.place.past = false) :
    Run (Step marker) (s.expecting more) h (s'.expecting more) := by
  induction run with
  | refl => exact .refl
  | @tail h e t u _ step ih =>
    have before : t.place.past = false := by
      rw [Bool.eq_false_iff] at working ⊢
      exact fun gone => working (step_past step gone)
    exact (ih before).tail (step_expecting more step working)

/-- A session may come from one state to another while lines arrive; none do once the drain is out of its
loop. -/
def Continues (marker : List Char) (s s' : State κ) : Prop :=
  ∃ more h, (s.place.past = true → more = []) ∧ Run (Step marker) (s.expecting more) h s'

namespace Continues

theorem refl (s : State κ) : Continues marker s s :=
  ⟨[], [], fun _ => rfl, by rw [expecting_nil]; exact .refl⟩

theorem of_leads (leads : Leads marker s t) : Continues marker s t := by
  obtain ⟨h, run⟩ := leads
  exact ⟨[], h, fun _ => rfl, by rwa [expecting_nil]⟩

theorem arrive (line : LineRead) (working : s.place.past = false)
    (leads : Leads marker (s.expecting [line]) t) : Continues marker s t := by
  obtain ⟨h, run⟩ := leads
  exact ⟨[line], h, by simp [working], run⟩

theorem trans (first : Continues marker s t) (second : Continues marker t u) :
    Continues marker s u := by
  obtain ⟨more, h, done, first⟩ := first
  obtain ⟨later, h', done', second⟩ := second
  -- the later lines could have been there from the start, unless the drain has left its loop by then
  cases gone : t.place.past with
  | true =>
    rw [done' gone, expecting_nil] at second
    exact ⟨more, h ++ h', done, first.trans second⟩
  | false =>
    refine ⟨more ++ later, h ++ h', ?_, ?_⟩
    · intro before
      cases gone.symm.trans (run_past first before)
    · rw [← expecting_append]
      exact (run_expecting later first gone).trans second

/-- What has been followed from the start is a run on all the lines that arrived. -/
theorem run {pid grace : Nat} {bridge : Bridge}
    (continues : Continues marker (start [] pid grace bridge) s) :
    ∃ reads h, Run (Step marker) (start reads pid grace bridge) h s := by
  obtain ⟨more, h, -, run⟩ := continues
  exact ⟨more, h, run⟩

end Continues

end Arrival

/-! ### Counts -/

/-- What the counts of the drain and of the bridge add up to, where the bridge has counted some values
before. -/
structure Tallied (s : State Empty) (before : Nat) : Prop where
  lines : s.drain.stats.Balanced
  received : s.bridge.stats.received = before + s.received.length

theorem step_tallied {marker : List Char} {s s' : State Empty} {before : Nat}
    {e : Option (Handoff.Event (Party Empty))} (step : Step marker s e s') (tallied : Tallied s before) :
    Tallied s' before := by
  obtain ⟨lines, received⟩ := tallied
  cases step with
  | offer place kind step | skip place kind =>
    exact ⟨s.draining.line_balanced marker _ lines, received⟩
  | leave place step =>
    refine ⟨?_, received⟩
    rw [Drain.finish_stats]
    exact lines
  | receive step =>
    refine ⟨lines, ?_⟩
    have counted := Bridge.receive_counted { s.bridge with queue := s.handoff.queue }
    simp only [State.receiving, State.received, List.filterMap_append, List.length_append, counted] at *
    omega
  | perform call other free =>
    refine ⟨lines, ?_⟩
    rw [(s.bridge.perform_spares other).received]
    exact received
  | _ => exact ⟨lines, received⟩

theorem run_tallied {marker : List Char} {s : State Empty} {h : List (Handoff.Event (Party Empty))}
    {reads : List LineRead} {pid grace : Nat} {bridge : Bridge}
    (run : Run (Step marker) (start reads pid grace bridge) h s) :
    Tallied s bridge.stats.received := by
  induction run with
  | refl => exact ⟨rfl, rfl⟩
  | tail _ step ih => exact step_tallied step ih

end PartyBridge.Ensemble
