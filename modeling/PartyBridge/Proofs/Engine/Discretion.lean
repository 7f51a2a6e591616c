import PartyBridge.Engine.Supervision
import PartyBridge.Proofs.Journal.Agreement

/-!
# The discretion of the supervisor

What a supervisor notes and where it stands depends on its answers, and on the time only by whether the engine
has had its time (`answer_timeless`). Two supervisors that are answered alike note the same, but for the number
of the engine (`Alike.answer`).
-/

namespace PartyBridge.Engine
open Journal

/-- A phase without the time since when it lasts. -/
def Phase.timeless : Phase → Phase
  | .reaping _ killed => .reaping 0 killed
  | .judging _ => .judging 0
  | .killing _ => .killing 0
  | .forcing _ => .forcing 0
  | .resting _ killed => .resting 0 killed
  | phase => phase

/-- The end of the engine with which a supervisor is about to close the queue. -/
def Phase.closes? : Phase → Option Exit
  | .releasing exit | .closing exit => some exit
  | _ => none

namespace Supervisor

def timeless (s : Supervisor) : Supervisor :=
  { s with phase := s.phase.timeless }

/-- An answer without the time of day: all that counts is whether the engine has had its time. -/
def verdict (s : Supervisor) : Answer → Answer
  | .time now =>
    match s.phase with
    | .judging since => .time (if since + killDelay ≤ now then killDelay else 0)
    | _ => .time 0
  | answer => answer

theorem closes_close {s : Supervisor} {exit : Exit} (asks : s.ask = some (.close exit)) :
    s.timeless.phase.closes? = some exit := by
  obtain ⟨pid, grace, phase, notes⟩ := s
  cases phase <;> cases asks <;> rfl

theorem closes_other {s : Supervisor} {ask : Ask} (asks : s.ask = some ask)
    (other : ∀ exit, ask ≠ .close exit) : s.timeless.phase.closes? = none := by
  obtain ⟨pid, grace, phase, notes⟩ := s
  cases phase with
  | releasing exit | closing exit =>
    cases asks
    exact absurd rfl (other exit)
  | _ => rfl

theorem result_timeless (s : Supervisor) : s.timeless.result? = s.result? := by
  obtain ⟨pid, grace, phase, notes⟩ := s
  cases phase <;> rfl

/-- What the supervisor does when it judges whether an engine has had its time. -/
def judge (s : Supervisor) (since delay now : Nat) : Supervisor :=
  if since + delay ≤ now then (s.tell "ignored SIGTERM; escalating to SIGKILL").enter (.killing since)
  else s.enter (.resting since false)

theorem judge_timeless (s : Supervisor) (since now : Nat) {delay : Nat} (delays : 0 < delay) :
    (s.judge since delay now).timeless =
      s.judge 0 delay (if since + delay ≤ now then delay else 0) := by
  unfold judge
  by_cases late : since + delay ≤ now
  · simp only [late, if_true, Nat.zero_add, Nat.le_refl]
    rfl
  · have early : ¬0 + delay ≤ 0 := by omega
    simp only [late, if_false, early]
    rfl

theorem answer_timeless (s : Supervisor) (answer : Answer) :
    (s.answer answer).timeless = s.timeless.answer (s.verdict answer) := by
  obtain ⟨pid, grace, phase, notes⟩ := s
  cases phase with
  | judging since =>
    cases answer with
    | time now => exact judge_timeless ⟨pid, grace, .judging since, notes⟩ since now (by decide)
    | polled | heard | sent | rested | closed => rfl
  | watching | checking =>
    cases answer with
    | polled poll => cases poll <;> rfl
    | heard | sent | time | rested | closed => rfl
  | reaping since killed =>
    cases answer with
    | polled poll => cases poll <;> cases killed <;> rfl
    | heard | sent | time | rested | closed => rfl
  | listening =>
    cases answer with
    | heard word => cases word <;> rfl
    | polled | sent | time | rested | closed => rfl
  | terminating | killing | forcing =>
    cases answer with
    | sent fault => cases fault <;> rfl
    | polled | heard | time | rested | closed => rfl
  | releasing =>
    cases answer with
    | closed first => cases first <;> rfl
    | polled | heard | sent | time | rested => rfl
  | lingering | stamping | resting | closing | done => cases answer <;> rfl

/-- Two supervisors that a log does not tell apart, now or later, but for the numbers of their engines. -/
structure Alike (s s' : Supervisor) : Prop where
  phase : s.phase = s'.phase
  told : List.Forall₂ Agree (Level.events.messages s.notes) (Level.events.messages s'.notes)

namespace Alike

variable {s s' : Supervisor}

theorem enter (alike : s.Alike s') (phase : Phase) : (s.enter phase).Alike (s'.enter phase) :=
  ⟨rfl, alike.told⟩

theorem log (alike : s.Alike s') {text text' : String} (agree : Agree text text') :
    (s.log text).Alike (s'.log text') :=
  ⟨alike.phase, .cons agree alike.told⟩

theorem tell (alike : s.Alike s') (text : String) : (s.tell text).Alike (s'.tell text) :=
  alike.log (.engine s.pid s'.pid text)

theorem tellFault (alike : s.Alike s') (signal : EndSignal) (fault : Option String) :
    (s.tellFault signal fault).Alike (s'.tellFault signal fault) := by
  cases fault with
  | none => exact alike
  | some fault => exact alike.log (.unsignalled signal.number s.pid s'.pid fault)

theorem answer (alike : s.Alike s') (a : Answer) : (s.answer a).Alike (s'.answer a) := by
  have standing := alike.phase
  unfold Supervisor.answer
  rw [← standing]
  -- a case for each line of the definition: a phase is entered, with or without a note
  split
  · exact alike.enter _
  · exact (alike.tell _).enter _
  · exact (alike.tell _).enter _
  · exact alike.enter _
  · exact alike.enter _
  · exact alike.enter _
  · exact alike.enter _
  · dsimp only
    split
    · exact (alike.log (.same _)).enter _
    · exact alike.enter _
  · exact alike.enter _
  · exact (alike.tell _).enter _
  · exact (alike.tellFault _ _).enter _
  · exact alike.enter _
  · exact (alike.tell _).enter _
  · exact (alike.tell _).enter _
  · exact alike.enter _
  · exact alike.enter _
  · split
    · exact (alike.tell _).enter _
    · exact alike.enter _
  · exact alike.enter _
  · exact (alike.tellFault _ _).enter _
  · exact alike.enter _
  · exact (alike.tell _).enter _
  · exact alike.enter _
  · exact alike.enter _
  · exact alike

end Alike

end Supervisor

end PartyBridge.Engine
