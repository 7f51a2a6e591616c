import PartyBridge.Proofs.Handoff.Callers
import PartyBridge.Proofs.Run
import PartyBridge.Session.Scene

/-!
# How an engine is ended

A supervisor is answered as its surroundings please, while others use the queue that it is to close.
Whatever the answers are, it asks the engine to end at most once and kills it at most once after that,
only when it has been told to or has been let go, never after it has seen the end of the engine, and no
sooner than the delay allows. It is done with an end only after it has closed the queue
(`ends_engine_in_order`). The turns that a supervisor takes in a session are such runs
(`watchTurn_run`).
-/

namespace PartyBridge

theorem ValueQueue.close_fields {q q' : ValueQueue} {reason : CloseReason} {first : Bool}
    (done : q.close reason = (q', first)) :
    first = q.closed.isNone ∧ q'.closed = some (q.closed.getD reason) := by
  unfold close at done
  split at done
  all_goals
    cases done
    simp_all

end PartyBridge

namespace PartyBridge.Engine

def Ask.fits : Ask → Answer → Bool
  | .poll, .polled _ | .listen _, .heard _ | .send _, .sent _ | .killAlone, .sent _ | .clock, .time _
  | .rest _, .rested | .close _, .closed _ => true
  | _, _ => false

def Ask.signal? : Ask → Option EndSignal
  | .send signal => some signal
  | _ => none

def Answer.exit? : Answer → Option Exit
  | .polled (.exited exit) => some exit
  | _ => none

/-- What a supervisor has asked for and been told, in order. -/
abbrev Transcript :=
  List (Ask × Answer)

namespace Transcript

/-- The signals that were sent. To kill the engine alone is no signal of its own: it is how the kill is
sent when it could not be sent to the group. -/
def sent (h : Transcript) : List EndSignal :=
  h.filterMap fun x => x.1.signal?

def exits (h : Transcript) : List Exit :=
  h.filterMap fun x => x.2.exit?

/-- The supervisor has been told to end the engine, or has been let go. -/
def Told (h : Transcript) : Prop :=
  ∃ nanos, (.listen nanos, .heard .terminate) ∈ h ∨ (.listen nanos, .heard .disconnected) ∈ h

/-- The engine was asked to end, and the time was noted right after that. -/
def Stamped (h : Transcript) (since : Nat) : Prop :=
  ∃ early fault late, h = early ++ (.send .terminate, .sent fault) :: (.clock, .time since) :: late

theorem sent_append (h : Transcript) (x : Ask × Answer) :
    sent (h ++ [x]) = h.sent ++ x.1.signal?.toList := by
  cases signal : x.1.signal? <;> simp [sent, signal]

theorem exits_append (h : Transcript) (x : Ask × Answer) :
    exits (h ++ [x]) = h.exits ++ x.2.exit?.toList := by
  cases exit : x.2.exit? <;> simp [exits, exit]

theorem Told.append {h : Transcript} (told : h.Told) (x : Ask × Answer) : Told (h ++ [x]) := by
  obtain ⟨nanos, told⟩ := told
  refine ⟨nanos, ?_⟩
  rcases told with told | told
  · exact .inl (List.mem_append_left _ told)
  · exact .inr (List.mem_append_left _ told)

theorem Stamped.append {h : Transcript} {since : Nat} (stamped : h.Stamped since)
    (x : Ask × Answer) : Stamped (h ++ [x]) since := by
  obtain ⟨early, fault, late, rfl⟩ := stamped
  exact ⟨early, fault, late ++ [x], by simp⟩

end Transcript

end PartyBridge.Engine

namespace PartyBridge.Supervision
open Engine

structure State where
  supervisor : Supervisor
  queue : ValueQueue

def start (pid grace : Nat) (queue : ValueQueue) : State :=
  ⟨.start pid grace, queue⟩

/-- What the supervisor does: it is answered, it closes the queue, or its notes are taken over. -/
inductive Act : State → Option (Ask × Answer) → State → Prop where
  | answered {s : State} {ask : Ask} {answer : Answer} (asks : s.supervisor.ask = some ask)
      (fits : ask.fits answer) (other : ∀ exit, ask ≠ .close exit) :
      Act s (some (ask, answer)) { s with supervisor := s.supervisor.answer answer }
  | closed {s : State} {exit : Exit} {queue : ValueQueue} {first : Bool}
      (asks : s.supervisor.ask = some (.close exit))
      (done : s.queue.close (.engineExited exit) = (queue, first)) :
      Act s (some (.close exit, .closed first)) ⟨s.supervisor.answer (.closed first), queue⟩
  | noted {s : State} : Act s none { s with supervisor := { s.supervisor with notes := [] } }

/-- A step: the supervisor does something, or somebody else uses the queue. -/
inductive Step : State → Option (Ask × Answer) → State → Prop where
  | own {s s' : State} {e : Option (Ask × Answer)} (act : Act s e s') : Step s e s'
  | others {s : State} {now : Nat} {before after : Handoff.Phase} {e : Option (Handoff.Event Unit)}
      {queue : ValueQueue} (move : Handoff.Move () s.queue now before e queue after) :
      Step s none { s with queue }

/-- How a supervisor goes on: where it stands, what it asks for and is told, and where it stands then. -/
inductive Turn : Phase → Ask → Answer → Phase → Prop where
  | running : Turn .watching .poll (.polled .running) .listening
  | ended {exit : Exit} : Turn .watching .poll (.polled (.exited exit)) (.lingering exit)
  | unknown {message : String} : Turn .watching .poll (.polled (.failed message)) (.done none)
  | silence {nanos : Nat} : Turn .listening (.listen nanos) (.heard .nothing) .watching
  | told {nanos : Nat} {word : Heard} (some : word ≠ .nothing) :
      Turn .listening (.listen nanos) (.heard word) .checking
  | lingered {exit : Exit} {nanos : Nat} {word : Heard} :
      Turn (.lingering exit) (.listen nanos) (.heard word) (.releasing exit)
  | released {exit : Exit} {first : Bool} :
      Turn (.releasing exit) (.close exit) (.closed first) (.done (some exit))
  | gone {exit : Exit} : Turn .checking .poll (.polled (.exited exit)) (.closing exit)
  | present {poll : Poll} (unseen : ∀ exit, poll ≠ .exited exit) :
      Turn .checking .poll (.polled poll) .terminating
  | terminated {fault : Option String} :
      Turn .terminating (.send .terminate) (.sent fault) .stamping
  | stamped {now : Nat} : Turn .stamping .clock (.time now) (.reaping now false)
  | reaped {since : Nat} {killed : Bool} {exit : Exit} :
      Turn (.reaping since killed) .poll (.polled (.exited exit)) (.closing exit)
  | lost {since : Nat} {killed : Bool} {message : String} :
      Turn (.reaping since killed) .poll (.polled (.failed message)) (.done none)
  | lasts {since : Nat} :
      Turn (.reaping since true) .poll (.polled .running) (.resting since true)
  | judged {since : Nat} : Turn (.reaping since false) .poll (.polled .running) (.judging since)
  | due {since now : Nat} (elapsed : since + killDelay ≤ now) :
      Turn (.judging since) .clock (.time now) (.killing since)
  | early {since now : Nat} (sooner : now < since + killDelay) :
      Turn (.judging since) .clock (.time now) (.resting since false)
  | killed {since : Nat} : Turn (.killing since) (.send .kill) (.sent none) (.resting since true)
  | refused {since : Nat} {fault : String} :
      Turn (.killing since) (.send .kill) (.sent (some fault)) (.forcing since)
  | forced {since : Nat} {fault : Option String} :
      Turn (.forcing since) .killAlone (.sent fault) (.resting since true)
  | rested {since nanos : Nat} {killed : Bool} :
      Turn (.resting since killed) (.rest nanos) .rested (.reaping since killed)
  | closed {exit : Exit} {first : Bool} :
      Turn (.closing exit) (.close exit) (.closed first) (.done (some exit))

theorem answer_turn {s : Supervisor} {ask : Ask} {answer : Answer} (asks : s.ask = some ask)
    (fits : ask.fits answer) : Turn s.phase ask answer (s.answer answer).phase := by
  obtain ⟨pid, grace, phase, notes⟩ := s
  cases phase
  all_goals cases asks
  all_goals cases answer
  all_goals cases fits
  case watching poll => cases poll; exacts [.running, .ended, .unknown]
  case listening word => cases word; exacts [.silence, .told nofun, .told nofun]
  case lingering => exact .lingered
  case releasing first => cases first <;> exact .released
  case checking poll =>
    cases poll
    exacts [.present nofun, .gone, .present nofun]
  case terminating fault => cases fault <;> exact .terminated
  case stamping => exact .stamped
  case reaping killed poll =>
    cases killed <;> cases poll
    exacts [.judged, .reaped, .lost, .lasts, .reaped, .lost]
  case judging since now =>
    by_cases elapsed : since + killDelay ≤ now
    · simpa [Supervisor.answer, Supervisor.enter, elapsed] using Turn.due elapsed
    · simpa [Supervisor.answer, Supervisor.enter, elapsed] using Turn.early (by omega)
  case killing fault => cases fault; exacts [.killed, .refused]
  case forcing fault => cases fault <;> exact .forced
  case resting => exact .rested
  case closing => exact .closed

/-- The supervisor was told to end the engine, has sent some signals, and has not seen its end. -/
structure Ending (h : Transcript) (signals : List EndSignal) : Prop where
  told : h.Told
  sent : h.sent = signals
  unseen : h.exits = []

/-- At most the two signals in their order were sent, and some ends of the engine were seen. -/
structure Ended (h : Transcript) (exits : List Exit) : Prop where
  sent : h.sent <+: [.terminate, .kill]
  seen : h.exits = exits

/-- What has happened when a supervisor stands somewhere. -/
def Known (h : Transcript) : Phase → Prop
  | .watching | .listening => h.sent = [] ∧ h.exits = []
  | .lingering exit | .releasing exit => h.sent = [] ∧ h.exits = [exit]
  | .checking | .terminating => Ending h []
  | .stamping =>
    Ending h [.terminate] ∧ ∃ early fault, h = early ++ [(.send .terminate, .sent fault)]
  | .reaping since false | .judging since | .resting since false =>
    Ending h [.terminate] ∧ h.Stamped since
  | .killing since =>
    Ending h [.terminate] ∧ ∃ early now, h = early ++ [(.clock, .time now)] ∧
      Transcript.Stamped early since ∧ since + killDelay ≤ now
  | .forcing _ =>
    Ending h [.terminate, .kill] ∧ ∃ early fault, h = early ++ [(.send .kill, .sent (some fault))]
  | .reaping _ true | .resting _ true => Ending h [.terminate, .kill]
  | .closing exit => Ended h [exit]
  | .done exit => Ended h exit.toList

theorem Ending.append {h : Transcript} {signals : List EndSignal} (ending : Ending h signals)
    {ask : Ask} {answer : Answer} (unseen : answer.exit? = none) :
    Ending (h ++ [(ask, answer)]) (signals ++ ask.signal?.toList) where
  told := ending.told.append _
  sent := by rw [Transcript.sent_append, ending.sent]
  unseen := by simp [Transcript.exits_append, ending.unseen, unseen]

theorem Ending.ended {h : Transcript} {signals : List EndSignal} (ending : Ending h signals)
    (order : signals <+: [.terminate, .kill]) (answer : Answer) :
    Ended (h ++ [(.poll, answer)]) answer.exit?.toList where
  sent := by simpa [Transcript.sent_append, ending.sent, Ask.signal?] using order
  seen := by simp [Transcript.exits_append, ending.unseen]

theorem Ended.append {h : Transcript} {exits : List Exit} (ended : Ended h exits) {ask : Ask}
    {answer : Answer} (silent : ask.signal? = none) (unseen : answer.exit? = none) :
    Ended (h ++ [(ask, answer)]) exits where
  sent := by simpa [Transcript.sent_append, silent] using ended.sent
  seen := by simpa [Transcript.exits_append, unseen] using ended.seen

theorem known_ending {h : Transcript} {since : Nat} {killed : Bool}
    (known : Known h (.reaping since killed)) :
    ∃ signals, Ending h signals ∧ signals <+: [.terminate, .kill] := by
  cases killed with
  | true => exact ⟨_, known, List.prefix_rfl⟩
  | false => exact ⟨_, known.1, by decide⟩

theorem known_turn {h : Transcript} {before after : Phase} {ask : Ask} {answer : Answer}
    (known : Known h before) (turn : Turn before ask answer after) :
    Known (h ++ [(ask, answer)]) after := by
  have sent := h.sent_append (ask, answer)
  have exits := h.exits_append (ask, answer)
  cases turn with
  -- as long as nothing is sent, the counts say it all
  | running | silence | ended | lingered =>
    simpa [Known, sent, exits, Ask.signal?, Answer.exit?] using known
  | unknown | released =>
    refine ⟨?_, ?_⟩
    · simp [sent, known.1, Ask.signal?]
    · simp [exits, known.2, Answer.exit?]
  | @told nanos word some =>
    refine ⟨⟨nanos, ?_⟩, ?_, ?_⟩
    · cases word <;> simp_all
    · simp [sent, known.1, Ask.signal?]
    · simp [exits, known.2, Answer.exit?]
  -- from here on it has been told to end the engine, until it sees its end
  | gone => exact known.ended (by decide) _
  | @present poll unseen =>
    exact known.append (by cases poll <;> simp_all [Answer.exit?])
  | terminated => exact ⟨known.append rfl, _, _, rfl⟩
  | stamped =>
    obtain ⟨ending, early, fault, rfl⟩ := known
    exact ⟨ending.append rfl, early, fault, [], by simp⟩
  | reaped | lost =>
    obtain ⟨signals, ending, order⟩ := known_ending known
    exact ending.ended order _
  | lasts => exact Ending.append known rfl
  | judged | early => exact ⟨known.1.append rfl, known.2.append _⟩
  | due elapsed => exact ⟨known.1.append rfl, _, _, rfl, known.2, elapsed⟩
  | killed | forced => exact known.1.append rfl
  | refused => exact ⟨known.1.append rfl, _, _, rfl⟩
  | @rested since nanos killed =>
    cases killed with
    | true => exact Ending.append known rfl
    | false => exact ⟨known.1.append rfl, known.2.append _⟩
  | closed => exact known.append rfl rfl

theorem step_known {s s' : State} {e : Option (Ask × Answer)} {h : Transcript} (step : Step s e s')
    (known : Known h s.supervisor.phase) : Known (h ++ e.toList) s'.supervisor.phase := by
  cases step with
  | own act =>
    cases act with
    | answered asks fits other => exact known_turn known (answer_turn asks fits)
    | closed asks done => exact known_turn known (answer_turn asks rfl)
    | noted => simpa using known
  | others move => simpa using known

section Runs
variable {pid grace : Nat} {queue : ValueQueue} {h : Transcript} {s : State}

theorem run_known (run : Run Step (start pid grace queue) h s) : Known h s.supervisor.phase := by
  induction run with
  | refl => exact ⟨rfl, rfl⟩
  | tail _ step ih => exact step_known step ih

/-- What had happened when the supervisor asked for something. -/
theorem run_asked {before after : Transcript} {ask : Ask} {answer : Answer}
    (run : Run Step (start pid grace queue) (before ++ (ask, answer) :: after) s) :
    ∃ t : Supervisor, Known before t.phase ∧ t.ask = some ask := by
  obtain ⟨t, t', first, step, -⟩ := run.split
  refine ⟨t.supervisor, run_known first, ?_⟩
  cases step with
  | own act =>
    cases act with
    | answered asks fits other => exact asks
    | closed asks done => exact asks

theorem known_sent {phase : Phase} (known : Known h phase) : h.sent <+: [.terminate, .kill] := by
  cases phase with
  | watching | listening | lingering exit | releasing exit => simp [known.1]
  | checking | terminating => simp [known.sent]
  | stamping | judging since | killing since | forcing since => simp [known.1.sent]
  | reaping since killed =>
    obtain ⟨signals, ending, order⟩ := known_ending known
    rwa [ending.sent]
  | resting since killed =>
    cases killed with
    | true => simp [known.sent]
    | false => simp [known.1.sent]
  | closing exit | done exit => exact known.sent

/-- A supervisor that is about to send a signal. -/
theorem known_signal {t : Supervisor} {ask : Ask} (known : Known h t.phase) (asks : t.ask = some ask)
    (signals : (∃ signal, ask = .send signal) ∨ ask = .killAlone) : h.Told ∧ h.exits = [] := by
  obtain ⟨pid, grace, phase, notes⟩ := t
  cases phase with
  | terminating => exact ⟨known.told, known.unseen⟩
  | killing since | forcing since => exact ⟨known.1.told, known.1.unseen⟩
  | done exit => cases asks
  | _ =>
    cases asks
    simp at signals

/-- A supervisor that is about to kill the engine's group. -/
theorem known_kill {t : Supervisor} (known : Known h t.phase) (asks : t.ask = some (.send .kill)) :
    ∃ since early now, h = early ++ [(.clock, .time now)] ∧ Transcript.Stamped early since ∧
      since + killDelay ≤ now := by
  obtain ⟨pid, grace, phase, notes⟩ := t
  cases phase with
  | killing since => exact ⟨since, known.2⟩
  | _ => cases asks

/-- A supervisor that is about to kill the engine alone. -/
theorem known_killAlone {t : Supervisor} (known : Known h t.phase) (asks : t.ask = some .killAlone) :
    ∃ early fault, h = early ++ [(.send .kill, .sent (some fault))] := by
  obtain ⟨pid, grace, phase, notes⟩ := t
  cases phase with
  | forcing since => exact known.2
  | _ => cases asks

theorem result?_done {t : Supervisor} {exit : Option Exit} (result : t.result? = some exit) :
    t.phase = .done exit := by
  unfold Supervisor.result? at result
  split at result
  · cases result
    assumption
  · cases result

theorem turn_done {before : Phase} {ask : Ask} {answer : Answer} {exit : Exit}
    (turn : Turn before ask answer (.done (some exit))) : ask = .close exit := by
  cases turn <;> rfl

/-- A supervisor that is done with an end of the engine has closed the queue last, and the reason is
that end unless the queue had a reason before. -/
theorem run_closed {exit : Exit} (run : Run Step (start pid grace queue) h s)
    (done : s.supervisor.phase = .done (some exit)) :
    ∃ before found, h = before ++ [(.close exit, .closed found.queue.closed.isNone)] ∧
      Run Step (start pid grace queue) before found ∧
      s.queue.closed = some (found.queue.closed.getD (.engineExited exit)) := by
  induction run with
  | refl => cases done
  | @tail h e t u run step ih =>
    cases step with
    | own act =>
      cases act with
      | @answered ask answer asks fits other =>
        -- only a close can be what the supervisor does last
        have turn := answer_turn asks fits
        rw [done] at turn
        exact absurd (turn_done turn) (other exit)
      | @closed last after first asks closes =>
        have turn : Turn _ _ (.closed first) _ := answer_turn asks rfl
        rw [done] at turn
        cases turn_done turn
        obtain ⟨rfl, same⟩ := ValueQueue.close_fields closes
        exact ⟨h, t, rfl, run, same⟩
      | noted => simpa using ih done
    | others move =>
      -- a queue that is closed keeps its reason, whoever uses it
      obtain ⟨before, found, same, first, closed⟩ := ih done
      exact ⟨before, found, by simpa using same, first,
        Handoff.effect_closed (Handoff.move_effect move) closed⟩

/-- Whatever a supervisor is told and whoever uses the queue: it sends at most the request to end and
then the kill. A signal is sent only if it was told to end the engine or was let go, and if it has not
seen the end of the engine. The kill is sent only if the last look at the clock was `killDelay` or more
after the one that followed the request, and to the engine alone only if it could not be sent to the
group. If the supervisor is done with an end of the engine, it has seen that end and no other, and its
last act was to close the queue, which is closed for that end if it was open. -/
theorem ends_engine_in_order (run : Run Step (start pid grace queue) h s) :
    h.sent <+: [.terminate, .kill] ∧
    (∀ (before : Transcript) ask answer after, h = before ++ (ask, answer) :: after →
      (∃ signal, ask = .send signal) ∨ ask = .killAlone → before.Told ∧ before.exits = []) ∧
    (∀ before answer after, h = before ++ (.send .kill, answer) :: after →
      ∃ since early now, before = early ++ [(.clock, .time now)] ∧ Transcript.Stamped early since ∧
        since + killDelay ≤ now) ∧
    (∀ before answer after, h = before ++ (.killAlone, answer) :: after →
      ∃ early fault, before = early ++ [(.send .kill, .sent (some fault))]) ∧
    ∀ exit, s.supervisor.result? = some (some exit) → h.exits = [exit] ∧
      ∃ before found, h = before ++ [(.close exit, .closed found.queue.closed.isNone)] ∧
        Run Step (start pid grace queue) before found ∧
        s.queue.closed = some (found.queue.closed.getD (.engineExited exit)) := by
  have known := run_known run
  refine ⟨known_sent known, ?_, ?_, ?_, ?_⟩
  · rintro before ask answer after rfl signals
    obtain ⟨t, known, asks⟩ := run_asked run
    exact known_signal known asks signals
  · rintro before answer after rfl
    obtain ⟨t, known, asks⟩ := run_asked run
    exact known_kill known asks
  · rintro before answer after rfl
    obtain ⟨t, known, asks⟩ := run_asked run
    exact known_killAlone known asks
  · intro exit result
    have done := result?_done result
    rw [done] at known
    exact ⟨known.seen, run_closed run done⟩

end Runs

/-- The supervisor asks for what stands in a transcript, and does not come to close the queue. -/
def follows : Supervisor → Transcript → Bool
  | _, [] => true
  | _, (.close _, _) :: _ => false
  | s, (ask, answer) :: rest =>
    decide (s.ask = some ask) && ask.fits answer && follows (s.answer answer) rest

theorem follows_run {h : Transcript} {s : Supervisor} (queue : ValueQueue)
    (follow : follows s h = true) :
    Run Step ⟨s, queue⟩ h ⟨h.foldl (fun s x => s.answer x.2) s, queue⟩ := by
  fun_induction follows s h with
  | case1 s => exact .refl
  | case2 => cases follow
  | case3 s ask answer rest other ih =>
    simp only [Bool.and_eq_true, decide_eq_true_eq] at follow
    obtain ⟨⟨asks, fits⟩, follow⟩ := follow
    exact (Run.refl.event (.own (.answered asks fits other))).trans (ih follow)

/-- An engine that does not end when it is asked to, and whose group is gone when it is to be killed. -/
def stubborn : Transcript :=
  [(.poll, .polled .running), (.listen pollInterval, .heard .disconnected), (.poll, .polled .running),
    (.send .terminate, .sent none), (.clock, .time 8), (.poll, .polled .running),
    (.clock, .time (8 + killDelay)), (.send .kill, .sent (some "No such process")),
    (.killAlone, .sent none), (.rest pollInterval, .rested), (.poll, .polled (.exited (.ofSignal 9)))]

theorem ends_engine_in_order_stubborn : ∃ s,
    Run Step (start 7 0 .empty) (stubborn ++ [(.close (.ofSignal 9), .closed true)]) s ∧
    s.supervisor.result? = some (some (.ofSignal 9)) ∧
    Transcript.sent stubborn <+: [.terminate, .kill] ∧
    (∃ early fault, stubborn.take 8 = early ++ [(.send .kill, .sent (some fault))]) ∧
    ∃ reason, s.queue.closed = some reason := by
  have followed : Run Step (start 7 0 .empty) stubborn _ := follows_run .empty (by decide)
  have run := followed.event (.own (.closed rfl rfl))
  obtain ⟨-, -, -, alone, done⟩ := ends_engine_in_order run
  obtain ⟨-, before, found, -, -, closed⟩ := done (.ofSignal 9) rfl
  exact ⟨_, run, rfl, (ends_engine_in_order followed).1, alone _ _ _ rfl, _, closed⟩

/-! ### Turns in a session -/

open Session

theorem waiting_cases {s s' : Scene} {w w' : Watch} {nanos : Nat} {told : Option (Watch × Answer)}
    {after answer : Answer} (waited : s.waiting w nanos told after = some (s', w', answer)) :
    s' = s ∧ ((∃ v, told = some (v, answer) ∧ w'.supervisor = v.supervisor) ∨
      (told = none ∧ answer = after ∧ w'.supervisor = w.supervisor)) := by
  unfold Scene.waiting at waited
  dsimp only at waited
  split at waited
  · cases waited
    exact ⟨rfl, .inl ⟨_, rfl, rfl⟩⟩
  · split at waited
    · cases waited
      exact ⟨rfl, .inr ⟨rfl, rfl, rfl⟩⟩
    · cases waited

/-- What an answer leaves: of the scene only the machine and the queue may have changed, and the queue only by
a close. -/
theorem answerAsk_cases {s s' : Scene} {w w' : Watch} {ask : Ask} {answer : Answer}
    (answered : s.answerAsk w ask = some (s', w', answer)) :
    w'.supervisor = w.supervisor ∧ s' = { s with machine := s'.machine, queue := s'.queue } ∧ ask.fits answer ∧
      ((∃ exit first, ask = .close exit ∧ answer = .closed first ∧
          s.queue.close (.engineExited exit) = (s'.queue, first)) ∨
        (∀ exit, ask ≠ .close exit) ∧ s'.queue = s.queue) := by
  cases ask with
  | poll =>
    simp only [Scene.answerAsk, Option.some.injEq, Prod.mk.injEq, Scene.pollEngine] at answered
    obtain ⟨rfl, rfl, rfl⟩ := answered
    split <;> exact ⟨rfl, rfl, rfl, .inr ⟨nofun, rfl⟩⟩
  | listen nanos =>
    simp only [Scene.answerAsk] at answered
    obtain ⟨rfl, ⟨v, told, same⟩ | ⟨-, rfl, same⟩⟩ := waiting_cases answered
    · rw [same]
      split at told
      · cases told
        exact ⟨rfl, rfl, rfl, .inr ⟨nofun, rfl⟩⟩
      · split at told
        · cases told
          exact ⟨rfl, rfl, rfl, .inr ⟨nofun, rfl⟩⟩
        · cases told
    · exact ⟨same, rfl, rfl, .inr ⟨nofun, rfl⟩⟩
  | rest nanos =>
    simp only [Scene.answerAsk] at answered
    obtain ⟨rfl, ⟨v, told, -⟩ | ⟨-, rfl, same⟩⟩ := waiting_cases answered
    · cases told
    · exact ⟨same, rfl, rfl, .inr ⟨nofun, rfl⟩⟩
  | send | killAlone | clock =>
    cases answered
    exact ⟨rfl, rfl, rfl, .inr ⟨nofun, rfl⟩⟩
  | close exit =>
    cases answered
    exact ⟨rfl, rfl, rfl, .inl ⟨exit, _, rfl, rfl, rfl⟩⟩

theorem answerAsk_act {s s' : Scene} {w w' : Watch} {ask : Ask} {answer : Answer}
    (asks : w.supervisor.ask = some ask) (answered : s.answerAsk w ask = some (s', w', answer)) :
    w'.supervisor = w.supervisor ∧ s'.drainer = s.drainer ∧
      Act ⟨w.supervisor, s.queue⟩ (some (ask, answer)) ⟨w.supervisor.answer answer, s'.queue⟩ := by
  obtain ⟨same, frame, fits, queues⟩ := answerAsk_cases answered
  refine ⟨same, by rw [frame], ?_⟩
  obtain ⟨exit, first, rfl, rfl, closed⟩ | ⟨other, queue⟩ := queues
  · exact .closed asks closed
  · rw [queue]
    exact .answered asks fits other

/-- The turn of a supervisor in a session is a run of its own acts, and leaves the drain alone. -/
theorem watchTurn_run (fuel : Nat) (moved : Bool) {s : Scene} {w : Watch} (watch : s.watch = some w) :
    (s.watchTurn fuel moved).1.drainer = s.drainer ∧
    ∃ h w', (s.watchTurn fuel moved).1.watch = some w' ∧
      Run Act ⟨w.supervisor, s.queue⟩ h ⟨w'.supervisor, (s.watchTurn fuel moved).1.queue⟩ := by
  induction fuel generalizing moved s w with
  | zero => exact ⟨rfl, [], w, watch, .refl⟩
  | succ fuel ih =>
    unfold Scene.watchTurn
    rw [watch]
    dsimp only
    split
    · exact ⟨rfl, [], w, watch, .refl⟩
    · rename_i ask asks
      split
      · rename_i s' w' answer answered
        obtain ⟨same, drainer, act⟩ := answerAsk_act asks answered
        obtain ⟨supervisor, waitsUntil, told, released⟩ := w'
        cases same
        obtain ⟨kept, h, v, last, run⟩ := @ih true { s'.logAll (w.supervisor.answer answer).notes with
          watch := some ⟨{ w.supervisor.answer answer with notes := [] }, waitsUntil, told, released⟩ }
          _ rfl
        exact ⟨kept.trans drainer, [(ask, answer)] ++ h, v, last,
          ((Run.refl.event act).quiet .noted).trans run⟩
      · split
        · exact ⟨rfl, [], _, rfl, .refl⟩
        · exact ⟨rfl, [], _, rfl, .refl⟩
        · exact ⟨rfl, [], w, watch, .refl⟩

end PartyBridge.Supervision
