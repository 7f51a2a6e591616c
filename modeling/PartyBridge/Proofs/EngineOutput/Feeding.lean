import PartyBridge.EngineOutput.Feed
import PartyBridge.Proofs.Ensemble.Arrival

/-!
# A drain that is fed

A drain whose output arrives bit by bit is one of the parties of a session: between two bits it reads,
with nobody in a call, and whatever comes next, a line, the end of the output or a request to stop, it
does what the drain among the parties may do.
-/

namespace PartyBridge.EngineOutput.Drain
open ByteStream

variable {marker : List Char} {d d' : Drain}

/-- Two drains that differ in their notes only. -/
structure Alike (d d' : Drain) : Prop where
  stats : d.stats = d'.stats
  queue : d.queue = d'.queue

theorem Alike.line (alike : Alike d d') (bytes : Bytes) :
    Alike (d.line marker bytes) (d'.line marker bytes) := by
  obtain ⟨stats, queue, notes⟩ := d
  obtain ⟨stats', queue', notes'⟩ := d'
  obtain ⟨rfl, rfl⟩ := alike
  unfold Drain.line
  dsimp only
  split
  · split <;> exact ⟨rfl, rfl⟩
  · exact ⟨rfl, rfl⟩
  · exact ⟨rfl, rfl⟩

theorem Alike.finish (alike : Alike d d') (reason : CloseReason) :
    Alike (d.finish reason) (d'.finish reason) :=
  ⟨by simp only [finish_stats, alike.stats], by simp only [finish_queue, alike.queue]⟩

end PartyBridge.EngineOutput.Drain

namespace PartyBridge.EngineOutput.Feed

variable {marker : List Char} {bytes : Bytes} (f : Feed)

def dealt (marker : List Char) (f : Feed) (bytes : Bytes) : Feed :=
  { f with drain := f.drain.line marker bytes, pending := [] }

theorem line_going (going : f.stopping = false) : f.line marker bytes = f.dealt marker bytes := by
  simp [line, dealt, going]

theorem line_stopping (stopping : f.stopping = true) :
    f.line marker bytes = (f.dealt marker bytes).finish .cancelled := by
  simp [line, dealt, stopping]

end PartyBridge.EngineOutput.Feed

namespace PartyBridge.Ensemble
open ByteStream EngineOutput Engine

variable {marker : List Char} {f : Feed} {e : State Empty}

/-- A session whose drain has the flag, the counts and the queue of one that is fed, in which nobody is
in a call and no line has arrived that was not read. -/
structure Attuned (f : Feed) (e : State Empty) : Prop where
  stop : e.stop = f.stopping
  stats : e.drain.stats = f.drain.stats
  idle : ∃ clock, e.handoff = Handoff.idle f.drain.queue clock
  reads : e.reads = []
  ready : e.cancelling = false

/-- Between two bits of its output, the drain that is fed reads or is at its end. -/
structure Feeding (f : Feed) (e : State Empty) : Prop extends Attuned f e where
  place : e.place = if f.finished then .finished else .reading

structure Aside (e e' : State Empty) : Prop where
  supervisor : e'.supervisor = e.supervisor
  bridge : e'.bridge = e.bridge
  got : e'.got = e.got

theorem Aside.refl (e : State Empty) : Aside e e :=
  ⟨rfl, rfl, rfl⟩

theorem Aside.trans {e e' e'' : State Empty} (first : Aside e e') (second : Aside e' e'') :
    Aside e e'' :=
  ⟨second.supervisor.trans first.supervisor, second.bridge.trans first.bridge,
    second.got.trans first.got⟩

theorem Attuned.alike (attuned : Attuned f e) : e.draining.Alike f.drain := by
  obtain ⟨clock, idle⟩ := attuned.idle
  exact ⟨attuned.stats, by simp [State.draining, idle, Handoff.idle]⟩

-- how a line changes the drain is told by its lemmas, and unfolding it here would be slow
attribute [local irreducible] Drain.line

theorem check_stopped {queue : ValueQueue} {clock : Nat} (place : e.place = .checking)
    (stop : e.stop = true) (idle : e.handoff = Handoff.idle queue clock) :
    Run (Step marker) e [] { e with place := .leaving .cancelled } := by
  have away : e.handoff.phase (.inl .drainer) = .away := by
    rw [idle]
    rfl
  simpa [stop] using Run.refl.quiet (Step.check place away)

/-- A drain that has left its loop closes the queue. -/
theorem Attuned.leave {reason : CloseReason} (attuned : Attuned f e)
    (place : e.place = .leaving reason) :
    ∃ e', Leads marker e e' ∧ Feeding (f.finish reason) e' ∧ Aside e e' := by
  obtain ⟨clock, idle⟩ := attuned.idle
  have alike := attuned.alike.finish reason
  exact ⟨_, leave_undisturbed place idle, ⟨⟨attuned.stop, alike.stats,
    ⟨clock, by rw [alike.queue]; rfl⟩, attuned.reads, attuned.ready⟩, rfl⟩, ⟨rfl, rfl, rfl⟩⟩

/-- A drain that holds a line deals with it, looks at the flag, and goes on or leaves its loop. -/
theorem Attuned.settle {bytes : Bytes} (attuned : Attuned f e) (working : f.finished = false)
    (place : e.place = .holding bytes) :
    ∃ e', Leads marker e e' ∧ Feeding (f.line marker bytes) e' ∧ Aside e e' := by
  obtain ⟨clock, idle⟩ := attuned.idle
  have alike : (e.draining.line marker bytes).Alike (f.drain.line marker bytes) :=
    attuned.alike.line bytes
  have settled : Leads marker e _ := settle_undisturbed place idle
  have tuned : ∀ place, Attuned (f.dealt marker bytes)
      { e.settle marker bytes with
        handoff := Handoff.idle (e.draining.line marker bytes).queue clock, place } :=
    fun _ => ⟨attuned.stop, alike.stats, ⟨clock, by rw [alike.queue]; rfl⟩, attuned.reads,
      attuned.ready⟩
  cases stopping : f.stopping with
  | false =>
    have checked := settled.trans ⟨_, check_undisturbed rfl (attuned.stop.trans stopping) rfl⟩
    rw [f.line_going stopping]
    exact ⟨_, checked, ⟨tuned .reading, by simp [Feed.dealt, working]⟩, ⟨rfl, rfl, rfl⟩⟩
  | true =>
    have checked := settled.trans ⟨_, check_stopped rfl (attuned.stop.trans stopping) rfl⟩
    obtain ⟨e', left, feeding, aside⟩ := (tuned (.leaving .cancelled)).leave rfl
    rw [f.line_stopping stopping]
    exact ⟨e', checked.trans left, feeding, ⟨aside.supervisor, aside.bridge, aside.got⟩⟩

/-! ### What arrives -/

/-- The drain of a session goes on while output arrives, and the others do nothing. -/
def Fed (marker : List Char) (e : State Empty) (f' : Feed) : Prop :=
  ∃ e', Continues marker e e' ∧ Feeding f' e' ∧ Aside e e'

theorem Fed.refl (feeding : Feeding f e) : Fed marker e f :=
  ⟨e, .refl e, feeding, .refl e⟩

theorem Feeding.line (feeding : Feeding f e) (working : f.finished = false) (bytes : Bytes) :
    Fed marker e (f.line marker bytes) := by
  have place : e.place = .reading := by simpa [working] using feeding.place
  have read : Run (Step marker) (e.expecting [.line bytes]) []
      { e with place := .holding bytes, reads := [] } :=
    Run.refl.quiet (.read place (by simp [State.expecting, feeding.reads]))
  have held : Attuned f { e with place := .holding bytes, reads := [] } :=
    ⟨feeding.stop, feeding.stats, feeding.idle, rfl, feeding.ready⟩
  obtain ⟨e', settled, fed, aside⟩ := held.settle working rfl
  exact ⟨e', .arrive (.line bytes) (by rw [place]; rfl) (.trans ⟨_, read⟩ settled), fed,
    ⟨aside.supervisor, aside.bridge, aside.got⟩⟩

theorem Feeding.byte (feeding : Feeding f e) (b : UInt8) : Fed marker e (f.byte marker b) := by
  unfold Feed.byte
  split
  · exact .refl feeding
  · rename_i working
    split
    · exact feeding.line (by simpa using working) _
    · exact .refl ⟨⟨feeding.stop, feeding.stats, feeding.idle, feeding.reads, feeding.ready⟩,
        feeding.place⟩

theorem Fed.trans {f' : Feed} (fed : Fed marker e f) (more : ∀ e', Feeding f e' → Fed marker e' f') :
    Fed marker e f' := by
  obtain ⟨e', continues, feeding, aside⟩ := fed
  obtain ⟨e'', continues', feeding', aside'⟩ := more e' feeding
  exact ⟨e'', continues.trans continues', feeding', aside.trans aside'⟩

theorem Feeding.bytes (feeding : Feeding f e) (bs : Bytes) : Fed marker e (f.bytes marker bs).1 := by
  have folded : Fed marker e (bs.foldl (Feed.byte marker) f) := by
    induction bs generalizing f e with
    | nil => exact .refl feeding
    | cons b rest ih => exact (feeding.byte b).trans fun e' feeding' => ih feeding'
  unfold Feed.bytes
  split
  · exact .refl feeding
  · exact folded

/-- The output has ended while the drain reads. -/
theorem Feeding.ended (feeding : Feeding f e) (working : f.finished = false) :
    Fed marker e (f.finish .outputClosed) := by
  have place : e.place = .reading := by simpa [working] using feeding.place
  have ended : Run (Step marker) e [] { e with place := .leaving .outputClosed } :=
    Run.refl.quiet (.ended place feeding.reads)
  have tuned : Attuned f { e with place := .leaving .outputClosed } :=
    ⟨feeding.stop, feeding.stats, feeding.idle, feeding.reads, feeding.ready⟩
  obtain ⟨e', left, fed, aside⟩ := tuned.leave rfl
  exact ⟨e', .of_leads (.trans ⟨_, ended⟩ left), fed, ⟨aside.supervisor, aside.bridge, aside.got⟩⟩

theorem Feeding.eof (feeding : Feeding f e) : Fed marker e (f.eof marker) := by
  have noted : Feeding { f with ended := true } e :=
    ⟨⟨feeding.stop, feeding.stats, feeding.idle, feeding.reads, feeding.ready⟩, feeding.place⟩
  unfold Feed.eof
  split
  · exact .refl noted
  · rename_i working
    have working : f.finished = false := by simpa using working
    dsimp only
    split
    · exact noted.ended working
    · refine (noted.line working f.pending.reverse).trans fun e' feeding' => ?_
      split
      · exact .refl feeding'
      · rename_i going
        exact feeding'.ended (by simpa using going)

theorem Feeding.shutdown (feeding : Feeding f e) : Fed marker e f.shutdown := by
  obtain ⟨clock, idle⟩ := feeding.idle
  have fields : f.shutdown.stopping = true ∧ f.shutdown.finished = f.finished ∧
      f.shutdown.drain.stats = f.drain.stats ∧
      f.shutdown.drain.queue = (f.drain.queue.close .cancelled).1 := by
    unfold Feed.shutdown ValueQueue.close
    cases closed : f.drain.queue.closed <;> simp [closed]
  obtain ⟨stopping, finished, stats, queue⟩ := fields
  refine ⟨_, .of_leads (cancel_undisturbed feeding.ready idle), ⟨⟨?_, ?_, ?_, ?_, ?_⟩, ?_⟩, ⟨rfl, rfl, rfl⟩⟩
  · exact stopping.symm
  · exact feeding.stats.trans stats.symm
  · exact ⟨clock, by rw [queue]⟩
  · exact feeding.reads
  · rfl
  · rw [finished]
    exact feeding.place

theorem Feeding.detach (feeding : Feeding f e) : Fed marker e f.detach :=
  .refl ⟨⟨feeding.stop, feeding.stats, feeding.idle, feeding.reads, feeding.ready⟩, feeding.place⟩

end PartyBridge.Ensemble
