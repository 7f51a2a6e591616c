import PartyBridge.Proofs.EngineOutput.Drain
import PartyBridge.Proofs.Ensemble.Parties
import PartyBridge.Proofs.Handoff.Turns

/-!
# A party undisturbed

Where nobody is in a call, the drain may deal with all of the output before anybody else does anything.
What comes of it is what `drain` computes, so that is one of the outcomes of a session
(`drain_undisturbed`). The driver may likewise receive undisturbed.
-/

namespace PartyBridge.Ensemble
open ByteStream EngineOutput Engine

variable {κ : Type} [DecidableEq κ] {marker : List Char}

/-- A session may come from one state to another. -/
def Leads (marker : List Char) (s s' : State κ) : Prop :=
  ∃ h, Run (Step marker) s h s'

theorem Leads.trans {s t u : State κ} (first : Leads marker s t) (second : Leads marker t u) :
    Leads marker s u := by
  obtain ⟨h, first⟩ := first
  obtain ⟨h', second⟩ := second
  exact ⟨h ++ h', first.trans second⟩

theorem run_quiet {s : State κ} {handoff : Handoff.State (Party κ)}
    (run : Run Handoff.Step s.handoff [] handoff) : Run (Step marker) s [] { s with handoff } := by
  generalize none : [] = h at run
  induction run with
  | refl => exact .refl
  | @tail h e t u _ step ih =>
    obtain ⟨rfl, quiet⟩ := List.append_eq_nil_iff.mp none.symm
    cases e with
    | some e => cases quiet
    | none => exact (ih rfl).quiet (.quiet step)

-- how a line changes the drain is told by its lemmas, and unfolding it here would be slow
attribute [local irreducible] Drain.line

section Turns
variable {s : State κ} {queue : ValueQueue} {clock : Nat}

theorem check_undisturbed (place : s.place = .checking) (free : s.stop = false)
    (idle : s.handoff = Handoff.idle queue clock) :
    Run (Step marker) s [] { s with place := .reading } := by
  have away : s.handoff.phase (.inl .drainer) = .away := by
    rw [idle]
    rfl
  simpa [free] using Run.refl.quiet (Step.check place away)

theorem read_undisturbed {bytes : Bytes} {rest : List LineRead} (place : s.place = .checking)
    (free : s.stop = false) (next : s.reads = .line bytes :: rest)
    (idle : s.handoff = Handoff.idle queue clock) :
    Leads marker s { s with place := .holding bytes, reads := rest } :=
  ⟨_, (check_undisturbed place free idle).quiet (.read rfl next)⟩

/-- The drain deals with the line that it holds. -/
theorem settle_undisturbed {bytes : Bytes} (place : s.place = .holding bytes)
    (idle : s.handoff = Handoff.idle queue clock) :
    Leads marker s { s.settle marker bytes with
      handoff := Handoff.idle (s.draining.line marker bytes).queue clock } := by
  have same : s.draining.queue = queue := by simp [State.draining, idle, Handoff.idle]
  cases kind : lineValue? marker bytes with
  | some v =>
    obtain ⟨told, push, back⟩ := Handoff.idle_push queue clock (.inl .drainer : Party κ) v
    rw [← idle] at push
    have offered : Run (Step marker) s _ { s.settle marker bytes with handoff := told } :=
      Run.refl.event (.offer place (lineValue?_eq_some.mp kind) push)
    rw [(s.draining.line_value kind).1, same]
    exact ⟨_, offered.trans (run_quiet back)⟩
  | none =>
    rw [(s.draining.line_other kind).1, same, ← idle]
    exact ⟨_, Run.refl.quiet (.skip place (lineValue?_eq_none.mp kind))⟩

/-- The drain reads a line and deals with it. -/
theorem line_undisturbed {bytes : Bytes} {rest : List LineRead} (place : s.place = .checking)
    (free : s.stop = false) (next : s.reads = .line bytes :: rest)
    (idle : s.handoff = Handoff.idle queue clock) :
    ∃ t after, Leads marker s t ∧ t.reads = rest ∧ t.place = .checking ∧ t.stop = false ∧
      t.handoff = Handoff.idle after clock ∧ t.got = s.got ∧
      t.draining = s.draining.line marker bytes :=
  ⟨_, _, (read_undisturbed place free next idle).trans (settle_undisturbed rfl idle), rfl, rfl, free,
    rfl, rfl, rfl⟩

/-- The drain closes the queue. -/
theorem leave_undisturbed {reason : CloseReason} (place : s.place = .leaving reason)
    (idle : s.handoff = Handoff.idle queue clock) :
    Leads marker s { s with
      handoff := Handoff.idle (s.draining.finish reason).queue clock
      place := .finished
      drain := s.draining.finish reason } := by
  have same : s.draining.queue = queue := by simp [State.draining, idle, Handoff.idle]
  obtain ⟨told, close, back⟩ := Handoff.idle_close queue clock (.inl .drainer : Party κ) reason
  rw [← idle] at close
  have left : Run (Step marker) s _
      { s with handoff := told, place := .finished, drain := s.draining.finish reason } :=
    Run.refl.event (.leave place close)
  rw [s.draining.finish_queue, same]
  exact ⟨_, left.trans (run_quiet back)⟩

/-- Somebody shuts the drain down: the flag is raised, the queue is closed, and all are told. -/
theorem shutdown_undisturbed (ready : s.cancelling = false)
    (idle : s.handoff = Handoff.idle queue clock) :
    ∃ t t', Run (Step marker) s [] t ∧
      Step marker t (some (.closed (.inl .stopper) .cancelled (queue.close .cancelled).2)) t' ∧
      Run (Step marker) t' [] { s with
        handoff := Handoff.idle (queue.close .cancelled).1 clock
        stop := true
        cancelling := false } := by
  have away : s.handoff.phase (.inl .stopper) = .away := by
    rw [idle]
    rfl
  obtain ⟨told, close, back⟩ := Handoff.idle_close queue clock (.inl .stopper : Party κ) .cancelled
  rw [← idle] at close
  have raised : Run (Step marker) s [] { s with stop := true, cancelling := true } :=
    Run.refl.quiet (.raise ready away)
  have closed : Step marker { s with stop := true, cancelling := true } _
      { s with handoff := told, stop := true, cancelling := false } := .cancel rfl close
  exact ⟨_, _, raised, closed, run_quiet back⟩

theorem cancel_undisturbed (ready : s.cancelling = false)
    (idle : s.handoff = Handoff.idle queue clock) :
    Leads marker s { s with
      handoff := Handoff.idle (queue.close .cancelled).1 clock
      stop := true
      cancelling := false } := by
  obtain ⟨t, t', raised, closed, back⟩ := shutdown_undisturbed ready idle
  exact ⟨_, (raised.event closed).trans back⟩

/-- The driver receives after some time. -/
theorem receive_undisturbed (nanos : Nat) (result : Except ReceiveError Int64) (left : ValueQueue)
    (idle : s.handoff = Handoff.idle queue clock)
    (found : Handoff.look queue (.starting s.bridge.timeout clock) (clock + nanos) =
      (some result, left)) :
    Leads marker s { s with
      handoff := Handoff.idle left (clock + nanos)
      bridge := s.receiving.1
      got := s.got ++ s.receiving.2.toList } := by
  obtain ⟨called, later, call, wait, queued, take⟩ :=
    Handoff.idle_receive queue clock (.inl .driver : Party κ) s.bridge.timeout nanos found
  have now : clock = s.handoff.clock := by rw [idle]; rfl
  have same : State.receiving { s with handoff := later } = s.receiving := by
    simp [State.receiving, queued, idle, Handoff.idle]
  rw [← idle, now] at call
  have asked : Run (Step marker) s _ { s with handoff := called } := Run.refl.event (.call call)
  have run := (asked.trans (run_quiet wait)).event (.receive take)
  rw [same] at run
  exact ⟨_, run⟩

end Turns

/-- A drain that nobody disturbs or stops deals with every line that is left. -/
theorem drain_rest {reads : List LineRead} {s : State κ} {queue : ValueQueue} {clock : Nat}
    (left : s.reads = reads) (place : s.place = .checking) (free : s.stop = false)
    (idle : s.handoff = Handoff.idle queue clock) :
    ∃ s', Leads marker s s' ∧ s'.place = .finished ∧ s'.got = s.got ∧
      s'.drain = s.draining.run marker reads ∧ s'.handoff = Handoff.idle s'.drain.queue clock := by
  induction reads generalizing s queue with
  | nil =>
    have ended : Leads marker s { s with place := .leaving .outputClosed } :=
      ⟨_, (check_undisturbed place free idle).quiet (.ended rfl left)⟩
    exact ⟨_, ended.trans (leave_undisturbed rfl idle), rfl, rfl, rfl, rfl⟩
  | cons next rest ih =>
    cases next with
    | fault message =>
      have faulted : Leads marker s
          { s with place := .leaving .outputClosed, drain := s.drain.fault message } :=
        ⟨_, (check_undisturbed place free idle).quiet (.fault rfl left)⟩
      exact ⟨_, faulted.trans (leave_undisturbed rfl idle), rfl, rfl, rfl, rfl⟩
    | line bytes =>
      obtain ⟨t, after, settled, left, place, free, idle, got, drain⟩ :=
        line_undisturbed place free left idle
      obtain ⟨s', more, finished, got', drain', idle'⟩ := ih left place free idle
      rw [drain] at drain'
      exact ⟨s', settled.trans more, finished, got'.trans got, drain', idle'⟩

/-- What `drain` computes is one of the outcomes of a session. -/
theorem drain_undisturbed (κ : Type) [DecidableEq κ] (marker : List Char) (capacity : Nat)
    (events : List Event) (pid grace : Nat) (bridge : Bridge) :
    ∃ s : State κ, Leads marker (start (lineReads capacity events) pid grace bridge) s ∧
      s.place = .finished ∧ s.got = [] ∧ s.drain = drain marker capacity events .empty ∧
      s.handoff = Handoff.idle s.drain.queue 0 :=
  drain_rest rfl rfl rfl rfl

end PartyBridge.Ensemble
