import PartyBridge.Proofs.Handoff.Callers
import PartyBridge.Proofs.Handoff.Turns
import PartyBridge.Proofs.Run

/-!
# The history of a handoff queue

The events of a run, in the order in which the callers held the lock, determine the queue: the values
accepted are those delivered and then those that still wait, and the first close is the one that counts
(`run_ledger`). `history_law` says what each caller was told at each point of a run.
-/

namespace PartyBridge.Handoff

variable {ι : Type}

namespace Event

def accepted? : Event ι → Option Int64
  | .pushed _ v true => some v
  | _ => none

def refused? : Event ι → Option Int64
  | .pushed _ v false => some v
  | _ => none

def delivered? : Event ι → Option Int64
  | .received _ _ _ (.ok v) => some v
  | .tried _ result => result
  | _ => none

/-- The value that a caller offered, and whether it was taken. -/
def offer? : Event ι → Option (Int64 × Bool)
  | .pushed _ v taken => some (v, taken)
  | _ => none

def close? : Event ι → Option CloseReason
  | .closed _ reason _ => some reason
  | _ => none

end Event

def accepted (h : List (Event ι)) : List Int64 :=
  h.filterMap Event.accepted?

def refused (h : List (Event ι)) : List Int64 :=
  h.filterMap Event.refused?

def delivered (h : List (Event ι)) : List Int64 :=
  h.filterMap Event.delivered?

def offers (h : List (Event ι)) : List (Int64 × Bool) :=
  h.filterMap Event.offer?

/-- The reason of the first close, whatever it was told. -/
def firstClose (h : List (Event ι)) : Option CloseReason :=
  h.findSome? Event.close?

theorem filterMap_step {α : Type} (f : Event ι → Option α) (h : List (Event ι)) (e : Option (Event ι)) :
    (h ++ e.toList).filterMap f = h.filterMap f ++ (e.bind f).toList := by
  cases e with
  | none => simp
  | some e => cases found : f e <;> simp [found]

section Snoc
variable (h : List (Event ι)) (e : Event ι)

@[simp] theorem accepted_snoc : accepted (h ++ [e]) = accepted h ++ e.accepted?.toList :=
  filterMap_step _ h (some e)

@[simp] theorem refused_snoc : refused (h ++ [e]) = refused h ++ e.refused?.toList :=
  filterMap_step _ h (some e)

@[simp] theorem delivered_snoc : delivered (h ++ [e]) = delivered h ++ e.delivered?.toList :=
  filterMap_step _ h (some e)

@[simp] theorem offers_snoc : offers (h ++ [e]) = offers h ++ e.offer?.toList :=
  filterMap_step _ h (some e)

@[simp] theorem firstClose_snoc : firstClose (h ++ [e]) = (firstClose h).or e.close? := by
  simp [firstClose]

end Snoc

/-! ### The ledger -/

structure Ledger (h : List (Event ι)) (q : ValueQueue) : Prop where
  closed : q.closed = firstClose h
  items : delivered h ++ q.items = accepted h
  offers : offers h = (accepted h).map (·, true) ++ (refused h).map (·, false)
  refused : firstClose h = none → refused h = []

theorem ledger_start : Ledger ([] : List (Event ι)) .empty :=
  ⟨rfl, rfl, rfl, fun _ => rfl⟩

theorem ledger_effect {h : List (Event ι)} {e : Option (Event ι)} {q q' : ValueQueue}
    (ledger : Ledger h q) (effect : Effect q e q') : Ledger (h ++ e.toList) q' := by
  obtain ⟨closed, items, offered, none⟩ := ledger
  unfold Effect at effect
  split at effect
  case h_1 v =>
    -- the queue is open, so nothing has been refused yet and the value stands last among the offers
    obtain ⟨opened, rfl⟩ := effect
    have nothing : refused h = [] := none (closed ▸ opened)
    constructor
    · simp [← closed, opened, Event.close?]
    · simp [← items, Event.delivered?, Event.accepted?]
    · simp [offered, nothing, Event.offer?, Event.accepted?, Event.refused?]
    · simp [nothing, Event.refused?]
  case h_2 reason =>
    obtain ⟨opened, rfl⟩ := effect
    have first : firstClose h = Option.none := closed ▸ opened
    constructor
    · simp [first, Event.close?]
    · simp [← items, Event.delivered?, Event.accepted?]
    · simp [offered, Event.offer?, Event.accepted?, Event.refused?]
    · simp [none first, Event.refused?]
  case h_4 reason =>
    obtain ⟨known, rfl⟩ := effect
    obtain ⟨earlier, first⟩ := Option.ne_none_iff_exists'.mp (closed ▸ known)
    constructor
    · simp [closed, first]
    · simp [← items, Event.delivered?, Event.accepted?]
    · simp [offered, Event.offer?, Event.accepted?, Event.refused?]
    · simp [first]
  all_goals constructor
  all_goals
    simp_all [Event.accepted?, Event.refused?, Event.delivered?, Event.offer?, Event.close?]

variable [DecidableEq ι]

theorem run_ledger {h : List (Event ι)} {s : State ι} (run : Run Step start h s) : Ledger h s.queue := by
  induction run with
  | refl => exact ledger_start
  | tail _ step ih => exact ledger_effect ih (step_effect step)

theorem run_point {before after : List (Event ι)} {e : Event ι} {s : State ι}
    (run : Run Step start (before ++ e :: after) s) :
    ∃ found left, Run Step start before found ∧ Step found (some e) left ∧ Run Step left after s ∧
      Ledger before found.queue ∧ Effect found.queue (some e) left.queue := by
  obtain ⟨found, left, first, step, rest⟩ := run.split
  exact ⟨found, left, first, step, rest, run_ledger first, step_effect step⟩

/-! ### After a close -/

omit [DecidableEq ι] in
theorem effect_close {t : ι} {reason : CloseReason} {first : Bool} {q q' : ValueQueue}
    (effect : Effect q (some (.closed t reason first)) q') :
    q' = ⟨q.items, some (q.closed.getD reason)⟩ := by
  obtain ⟨items, closed⟩ := q
  cases first with
  | true =>
    obtain ⟨opened, rfl⟩ := effect
    cases opened
    rfl
  | false =>
    obtain ⟨known, rfl⟩ := effect
    obtain ⟨earlier, rfl⟩ := Option.ne_none_iff_exists'.mp known
    rfl

omit [DecidableEq ι] in
theorem effect_refuses {e : Option (Event ι)} {q q' : ValueQueue} (effect : Effect q e q')
    (closed : q.closed ≠ none) :
    accepted e.toList = [] ∧ delivered e.toList ++ q'.items = q.items := by
  unfold Effect at effect
  split at effect
  all_goals simp_all [accepted, delivered, Event.accepted?, Event.delivered?]

/-- A closed queue keeps its reason and its values, but for those that are taken out. -/
theorem run_closed {s u : State ι} {h : List (Event ι)} {reason : CloseReason} (run : Run Step s h u)
    (closed : s.queue.closed = some reason) :
    u.queue.closed = some reason ∧ accepted h = [] ∧ delivered h ++ u.queue.items = s.queue.items := by
  induction run with
  | refl => exact ⟨closed, rfl, rfl⟩
  | @tail h e t u _ step ih =>
    obtain ⟨before, nothing, items⟩ := ih
    obtain ⟨refused, rest⟩ := effect_refuses (step_effect step) (by simp [before])
    refine ⟨step_closed step before, ?_, ?_⟩
    · rw [accepted, List.filterMap_append]
      exact List.append_eq_nil_iff.mpr ⟨nothing, refused⟩
    · rw [delivered, List.filterMap_append, List.append_assoc]
      exact (congrArg (delivered h ++ ·) rest).trans items

/-! ### After the last value -/

omit [DecidableEq ι] in
theorem effect_drained {e : Option (Event ι)} {q' : ValueQueue} {reason : CloseReason}
    (effect : Effect ⟨[], some reason⟩ e q') :
    q' = ⟨[], some reason⟩ ∧ (∀ t v taken, .pushed t v taken ∈ e → taken = false) ∧
      ∀ t wait now result, .received t wait now result ∈ e → result = .error (.closed reason) := by
  unfold Effect at effect
  split at effect
  all_goals simp_all [ValueQueue.empty]

theorem run_drained {s u : State ι} {h : List (Event ι)} {reason : CloseReason} (run : Run Step s h u)
    (drained : s.queue = ⟨[], some reason⟩) :
    u.queue = ⟨[], some reason⟩ ∧ (∀ t v taken, .pushed t v taken ∈ h → taken = false) ∧
      ∀ t wait now result, .received t wait now result ∈ h → result = .error (.closed reason) := by
  induction run with
  | refl => exact ⟨drained, by simp, by simp⟩
  | tail _ step ih =>
    obtain ⟨before, pushes, receipts⟩ := ih
    obtain ⟨after, pushed, received⟩ := effect_drained (before ▸ step_effect step)
    refine ⟨after, ?_, ?_⟩
    · intro t v taken member
      rcases List.mem_append.mp member with old | new
      · exact pushes t v taken old
      · exact pushed t v taken (Option.mem_toList.mp new)
    · intro t wait now result member
      rcases List.mem_append.mp member with old | new
      · exact receipts t wait now result old
      · exact received t wait now result (Option.mem_toList.mp new)

/-! ### Calls that wait -/

/-- The latest event of a caller is its call, made at the moment that its wait counts from. -/
def Waiting (h : List (Event ι)) (t : ι) (wait : Wait) : Prop :=
  ∃ past recent c timeout, Run Step start past c ∧ h = past ++ .called t wait :: recent ∧
    wait = .starting timeout c.clock ∧ ∀ x ∈ recent, x.caller ≠ t

theorem run_waiting {h : List (Event ι)} {s : State ι} (run : Run Step start h s) {t : ι} {wait : Wait}
    (waits : (s.phase t).wait? = some wait) : Waiting h t wait := by
  induction run with
  | refl => simp [start, Phase.wait?] at waits
  | @tail h e s u run step ih =>
    rcases step_wait step waits with ⟨waited, others⟩ | ⟨rfl, timeout, since⟩
    · obtain ⟨past, recent, c, timeout, called, rfl, since, quiet⟩ := ih waited
      refine ⟨past, recent ++ e.toList, c, timeout, called, by simp, since, ?_⟩
      intro x member
      rcases List.mem_append.mp member with old | new
      · exact quiet x old
      · exact others x (Option.mem_toList.mp new)
    · exact ⟨h, [], s, timeout, run, rfl, since, by simp⟩

/-- The law of every history of a queue, whoever made the calls. Pushes and closes succeed exactly
before the first close, whose reason is the only one ever told. Values are delivered in the order in
which they were accepted, and those counted are the ones still to be delivered. A receiver is told of
the close only after the last accepted value, and then every push is refused and every receiver told the
same. A receiver gives up only where the queue is empty and open and its whole time has passed since its
call, and leaves the queue as it is. -/
theorem history_law {h : List (Event ι)} {s : State ι} (run : Run Step start h s) :
    (∀ before after t v taken, h = before ++ .pushed t v taken :: after →
      (taken = true ↔ firstClose before = none)) ∧
    (∀ before after t reason first, h = before ++ .closed t reason first :: after →
      (first = true ↔ firstClose before = none)) ∧
    (∀ before after t reason, h = before ++ .asked t reason :: after → reason = firstClose before) ∧
    (∀ before after t n, h = before ++ .counted t n :: after →
      (delivered before).length + n = (accepted before).length) ∧
    s.queue.closed = firstClose h ∧
    delivered h ++ s.queue.items = accepted h ∧
    (∀ before after t wait now reason,
      h = before ++ .received t wait now (.error (.closed reason)) :: after →
      delivered before = accepted before ∧ firstClose before = some reason ∧
      (∀ u v taken, .pushed u v taken ∈ after → taken = false) ∧
      (∀ u wait now result, .received u wait now result ∈ after → result = .error (.closed reason)) ∧
      ∀ wait now, look s.queue wait now = (some (.error (.closed reason)), s.queue)) ∧
    ∀ before after t wait now nanos,
      h = before ++ .received t wait now (.error (.timedOut nanos)) :: after →
      (∃ past recent call, Run Step start past call ∧ before = past ++ .called t wait :: recent ∧
        (∀ x ∈ recent, x.caller ≠ t) ∧ wait = .limited call.clock nanos ∧ call.clock + nanos ≤ now) ∧
      ∃ found left, Run Step start before found ∧ Run Step left after s ∧ found.clock = now ∧
        found.queue = .empty ∧ left.queue = .empty := by
  refine ⟨?_, ?_, ?_, ?_, (run_ledger run).closed, (run_ledger run).items, ?_, ?_⟩
  · rintro before after t v taken rfl
    obtain ⟨found, left, -, -, -, ledger, effect⟩ := run_point run
    rw [← ledger.closed]
    cases taken <;> simp [effect.1]
  · rintro before after t reason first rfl
    obtain ⟨found, left, -, -, -, ledger, effect⟩ := run_point run
    rw [← ledger.closed]
    cases first <;> simp [effect.1]
  · rintro before after t reason rfl
    obtain ⟨found, left, -, -, -, ledger, effect⟩ := run_point run
    exact effect.1.trans ledger.closed
  · rintro before after t n rfl
    obtain ⟨found, left, -, -, -, ledger, effect⟩ := run_point run
    rw [effect.1, ← ledger.items, List.length_append]
  · rintro before after t wait now reason rfl
    obtain ⟨found, left, -, -, rest, ledger, drained, same⟩ := run_point run
    obtain ⟨last, pushes, receipts⟩ := run_drained rest (same.trans drained)
    have items := ledger.items
    have closed := ledger.closed
    rw [drained] at items closed
    refine ⟨by simpa using items, closed.symm, pushes, receipts, ?_⟩
    intro wait now
    rw [last]
    rfl
  · rintro before after t wait now nanos rfl
    obtain ⟨found, left, first, step, rest, -, empty, same, since, rfl, elapsed⟩ := run_point run
    obtain ⟨waits, moment, -⟩ := step_received step
    obtain ⟨past, recent, call, timeout, called, whole, start, quiet⟩ := run_waiting first waits
    obtain ⟨-, rfl⟩ := Wait.starting_limited start
    exact ⟨⟨past, recent, call, called, whole, quiet, rfl, elapsed⟩, found, left, first, rest, moment.symm,
      empty, same.trans empty⟩

/-- One caller waits in vain, receives a value of the other, and then hears of the other's close. -/
def exchange : List (Event Bool) :=
  [.called false (.limited 0 3), .received false (.limited 0 3) 3 (.error (.timedOut 3)),
    .pushed true 7 true, .called false .forever, .received false .forever 3 (.ok 7),
    .closed true .cancelled true, .called false .forever,
    .received false .forever 3 (.error (.closed .cancelled)), .pushed true 8 false]

theorem exchange_run : ∃ s, Run Step start exchange s := by
  obtain ⟨asked, late, ask, lapse, -, giveUp⟩ := idle_receive .empty 0 false (some 3) 3 rfl
  obtain ⟨putting, put, back⟩ := idle_push .empty 3 true 7
  obtain ⟨called, ready, call, look, -, take⟩ := idle_receive ⟨[7], none⟩ 3 false none 0 rfl
  obtain ⟨closing, close, told⟩ := idle_close .empty 3 true .cancelled
  obtain ⟨again, waiting, callAgain, lookAgain, -, hear⟩ :=
    idle_receive ⟨[], some .cancelled⟩ 3 false none 0 rfl
  obtain ⟨refusing, refuse, -⟩ := idle_push ⟨[], some .cancelled⟩ 3 true 8
  have first := (((Run.refl.event ask).trans lapse).event giveUp |>.event put).trans back
  have second := (((first.event call).trans look).event take |>.event close).trans told
  exact ⟨_, ((second.event callAgain).trans lookAgain).event hear |>.event refuse⟩

theorem history_law_exchange : ∃ s, Run Step start exchange s ∧ s.queue.closed = some .cancelled ∧
    [7] ++ s.queue.items = [7] ∧
    (∀ wait now, look s.queue wait now = (some (.error (.closed .cancelled)), s.queue)) ∧
    ∃ found left, Run Step start [.called false (.limited 0 3)] found ∧
      Run Step left (exchange.drop 2) s ∧ found.clock = 3 ∧ found.queue = .empty ∧
      left.queue = .empty := by
  obtain ⟨s, run⟩ := exchange_run
  obtain ⟨-, -, -, -, closed, items, ended, inVain⟩ := history_law run
  obtain ⟨-, -, -, -, ever⟩ :=
    ended (exchange.take 7) (exchange.drop 8) false .forever 3 .cancelled rfl
  obtain ⟨-, moment⟩ := inVain [.called false (.limited 0 3)] (exchange.drop 2) false _ 3 3 rfl
  exact ⟨s, run, closed, items, ever, moment⟩

end PartyBridge.Handoff
