import PartyBridge.Proofs.Session.Twins
import PartyBridge.Proofs.Session.Views

/-!
# Views that are alike

Two views are alike if a log without content cannot tell them apart, now or later. They stay so, and their logs
go on abreast, when happenings change them that differ in values, times, diagnostics and the numbers of
processes only (`View.Alike.after`), and when calls are made in them that differ in their texts only
(`View.Alike.call`).
-/

namespace PartyBridge

/-- Queues that are closed alike are left alike. -/
theorem ValueQueue.close_alike {q q' : ValueQueue} (size : q.size = q'.size) (closed : q.closed = q'.closed)
    (reason : CloseReason) :
    (q.close reason).2 = (q'.close reason).2 ∧ (q.close reason).1.size = (q'.close reason).1.size ∧
      (q.close reason).1.closed = (q'.close reason).1.closed := by
  obtain ⟨items, now⟩ := q
  obtain ⟨items', now'⟩ := q'
  obtain rfl : now = now' := closed
  cases now <;> exact ⟨rfl, size, rfl⟩

end PartyBridge

namespace PartyBridge.Session
open Journal Driver ByteStream Engine EngineOutput

/-- Two views that a log without content does not tell apart, now or later. -/
structure View.Alike (marker : List Char) (v v' : View) : Prop where
  bridge : v.bridge.Alike v'.bridge
  timeout : v.bridge.timeout = v'.bridge.timeout
  drain : v.drain = v'.drain
  drains : ∀ d ∈ v.drain, d.1 = marker ∧ d.2.pending = []
  diagnostics : v.diagnostics = v'.diagnostics
  supervisor : Option.Rel Supervisor.Alike v.supervisor v'.supervisor

/-- Two happenings of the same kind. -/
inductive Happening.Alike (marker : List Char) : Happening → Happening → Prop where
  | passed (clock clock' : Nat) : Alike marker (.passed clock) (.passed clock')
  | output {lines lines' : List Bytes} (same : List.Forall₂ (SameKind marker) lines lines') (ended : Bool) :
      Alike marker (.output lines ended) (.output lines' ended)
  | diagnostics {lines lines' : List Bytes} (length : lines.length = lines'.length) (ended : Bool) :
      Alike marker (.diagnostics lines ended) (.diagnostics lines' ended)
  | answered (answer : Answer) : Alike marker (.answered answer) (.answered answer)

namespace View.Alike

variable {marker : List Char} {v v' : View}

theorem note (alike : Alike marker v v') (note note' : Note) : Alike marker (v.note note) (v'.note note') :=
  ⟨alike.bridge, alike.timeout, alike.drain, alike.drains, alike.diagnostics, alike.supervisor⟩

theorem still (alike : Alike marker v v') : Together View.log (Alike marker) v v' v v' :=
  ⟨alike, .refl _ _⟩

/-! ### Those at work -/

theorem fed (alike : Alike marker v v') {f f' : Feed} (feeds : f.Alike f') :
    Together View.log (Alike marker) v v' (v.fed marker f) (v'.fed marker f') := by
  have bridge := alike.bridge.withQueue feeds.size feeds.drain.closed
  refine ⟨⟨bridge, alike.timeout, ?_, ?_, alike.diagnostics, alike.supervisor⟩, ?_⟩
  · simp only [View.fed, Feed.cut, feeds.drain.stats, feeds.stopping, feeds.finished]
  · rintro d ⟨⟩
    exact ⟨rfl, rfl⟩
  · refine ⟨_, _, rfl, rfl, ?_⟩
    rw [feeds.drain.told]
    exact agree_refl _

theorem feeds (alike : Alike marker v v') {work work' : List Char → Feed → Feed}
    (works : ∀ {f f' : Feed}, f.Alike f' → f.pending = [] → (work marker f).Alike (work' marker f')) :
    Together View.log (Alike marker) v v' (v.feeds work) (v'.feeds work') := by
  unfold View.feeds
  rw [← alike.drain]
  cases drain : v.drain with
  | none => exact alike.still
  | some d =>
    obtain ⟨m, f⟩ := d
    obtain ⟨rfl, between⟩ := alike.drains _ drain
    have given : Feed.Alike { f with drain := { f.drain with queue := v.bridge.queue } }
        { f with drain := { f.drain with queue := v'.bridge.queue } } :=
      ⟨⟨rfl, alike.bridge.closed, rfl⟩, alike.bridge.size, rfl, rfl, rfl⟩
    exact alike.fed (works given between)

theorem diagnosed (alike : Alike marker v v') {d d' : Diagnostics} (lines : d.lines = d'.lines)
    (told : Level.events.messages d.notes = Level.events.messages d'.notes) (finished : Bool) :
    Together View.log (Alike marker) v v' (v.diagnosed d finished) (v'.diagnosed d' finished) := by
  refine ⟨⟨alike.bridge, alike.timeout, alike.drain, alike.drains, ?_, alike.supervisor⟩, _, _, rfl, rfl, ?_⟩
  · simp only [View.diagnosed, lines]
  · rw [told]
    exact agree_refl _

theorem supervised (alike : Alike marker v v') {s s' : Supervisor} (watches : s.Alike s')
    {queue queue' : ValueQueue} (size : queue.size = queue'.size) (closed : queue.closed = queue'.closed) :
    Together View.log (Alike marker) v v' (v.supervised s queue) (v'.supervised s' queue') := by
  have bridge := alike.bridge.withQueue size closed
  exact ⟨⟨bridge, alike.timeout, alike.drain, alike.drains, alike.diagnostics, .some ⟨watches.phase, .nil⟩⟩,
    _, _, rfl, rfl, List.forall₂_reverse_iff.mpr watches.told⟩

theorem answered (alike : Alike marker v v') (answer : Answer) :
    Together View.log (Alike marker) v v' (v.answered answer) (v'.answered answer) := by
  have watches := alike.supervisor
  unfold View.answered
  generalize v.supervisor = watch at watches ⊢
  generalize v'.supervisor = watch' at watches ⊢
  cases watches with
  | none => exact alike.still
  | @some s s' watches =>
    dsimp only
    rw [← watches.phase]
    cases s.phase.closes? with
    | none => exact alike.supervised (watches.answer answer) alike.bridge.size alike.bridge.closed
    | some exit =>
      obtain ⟨first, size, closed⟩ :=
        ValueQueue.close_alike alike.bridge.size alike.bridge.closed (.engineExited exit)
      dsimp only
      rw [first]
      exact alike.supervised (watches.answer _) size closed

theorem happen (alike : Alike marker v v') {happening happening' : Happening}
    (happens : happening.Alike marker happening') :
    Together View.log (Alike marker) v v' (v.happen happening) (v'.happen happening') := by
  cases happens with
  | passed clock clock' =>
    exact ⟨⟨alike.bridge, alike.timeout, alike.drain, alike.drains, alike.diagnostics, alike.supervisor⟩,
      .refl _ _⟩
  | output same ended =>
    rw [View.happen, View.happen]
    refine alike.feeds ?_
    intro f f' fed between
    exact fed.reads between same ended
  | @diagnostics lines lines' length ended =>
    unfold View.happen
    dsimp only
    rw [← alike.diagnostics]
    cases v.diagnostics with
    | none => exact alike.still
    | some now =>
      obtain ⟨d, finished⟩ := now
      have count : (d.reads lines ended).lines = (d.reads lines' ended).lines := by
        rw [Diagnostics.reads_lines, Diagnostics.reads_lines, length]
      exact alike.diagnosed count (d.reads_told length ended) (finished || ended)
  | answered answer => exact alike.answered answer

theorem after (alike : Alike marker v v') {happenings happenings' : List Happening}
    (happens : List.Forall₂ (Happening.Alike marker) happenings happenings') :
    Together View.log (Alike marker) v v' (v.after happenings) (v'.after happenings') := by
  induction happens generalizing v v' with
  | nil => exact alike.still
  | cons first _ ih =>
    have happened := alike.happen first
    exact happened.trans (ih happened.1)

/-! ### The session itself -/

theorem used (alike : Alike marker v v') {b b' : Bridge} (bridges : b.Alike b')
    (timeout : b.timeout = b'.timeout) :
    Together View.log (Alike marker) v v' (v.used b) (v'.used b') := by
  refine ⟨⟨?_, timeout, alike.drain, alike.drains, alike.diagnostics, alike.supervisor⟩,
    _, _, rfl, rfl, List.forall₂_reverse_iff.mpr bridges.told⟩
  exact ⟨bridges.isOpen, bridges.size, bridges.closed, bridges.answers, bridges.stats, .nil⟩

theorem call (alike : Alike marker v v') (fault : Option WriteFault) {call call' : Call}
    (calls : call.Alike call') :
    RepliesAlike (v.call fault call).1 (v'.call fault call').1 ∧
      Together View.log (Alike marker) v v' (v.call fault call).2 (v'.call fault call').2 := by
  have facing : (v.bridge.facing fault).Alike (v'.bridge.facing fault) := alike.bridge.withSinks _ _ _ _
  obtain ⟨replies, left⟩ := facing.perform alike.timeout calls (alike.bridge.fault calls fault)
  have timeout : ((v.bridge.facing fault).perform call).1.timeout =
      ((v'.bridge.facing fault).perform call').1.timeout := by
    rw [Bridge.perform_timeout, Bridge.perform_timeout]
    exact alike.timeout
  refine ⟨?_, alike.used left timeout⟩
  unfold View.call
  dsimp only
  generalize ((v.bridge.facing fault).perform call).2 = result at replies ⊢
  generalize ((v'.bridge.facing fault).perform call').2 = result' at replies ⊢
  cases replies with
  | none => exact .failed _
  | some replies => exact replies

theorem closeInput (alike : Alike marker v v') :
    Together View.log (Alike marker) v v' v.closeInput v'.closeInput := by
  refine alike.used alike.bridge.closeInput ?_
  rw [(closeInput_kept v.bridge).1, (closeInput_kept v'.bridge).1, alike.timeout]

theorem stopDrain (alike : Alike marker v v') :
    Together View.log (Alike marker) v v' v.stopDrain v'.stopDrain := by
  refine alike.feeds ?_
  intro f f' fed _
  exact fed.shutdown

theorem leaveDrain (alike : Alike marker v v') :
    Together View.log (Alike marker) v v' v.leaveDrain v'.leaveDrain := by
  refine alike.feeds ?_
  intro f f' fed _
  exact fed.detach

theorem counts (alike : Alike marker v v') : v.counts = v'.counts := by
  rw [View.counts, View.counts, alike.drain]

theorem exit (alike : Alike marker v v') : v.exit = v'.exit := by
  have watches := alike.supervisor
  unfold View.exit
  generalize v.supervisor = watch at watches ⊢
  generalize v'.supervisor = watch' at watches ⊢
  cases watches with
  | none => rfl
  | @some s s' watches =>
    have result : s.result? = s'.result? := by rw [Supervisor.result?, Supervisor.result?, watches.phase]
    exact congrArg (Option.bind · id) result

end View.Alike

end PartyBridge.Session
