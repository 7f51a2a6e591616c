import Mathlib.Data.List.TakeWhile
import PartyBridge.Driver.Serve
import PartyBridge.Proofs.ByteStream.Pieces
import PartyBridge.Proofs.Run

/-!
# Runs of calls

A driver makes calls, one after another; the session may close the engine's input; and in between others
put values into the queue, and the sinks take bytes in their own manner and may refuse to be flushed.
`calls_law` says what any such run comes to when the sinks run out of room.
-/

namespace PartyBridge
open ByteStream
open Driver (Command Reply)

def Call.command : Call → Command
  | .input _ => .userInput
  | .send _ => .sendToEngine
  | .receive => .receiveFromEngine
  | .output _ => .userOutput

/-- What a call writes to the engine. -/
def Call.sent : Call → Bytes
  | .send text => Utf8.encode (text ++ "\n")
  | _ => []

/-- What a call writes to the operator's screen. -/
def Call.shown : Call → Bytes
  | .input label => Utf8.encode ("input " ++ label ++ " : ")
  | .output text => Utf8.encode ("output: " ++ text ++ "\n")
  | _ => []

def BridgeStats.of (stats : BridgeStats) : Command → Nat
  | .userInput => stats.inputs
  | .sendToEngine => stats.sent
  | .receiveFromEngine => stats.received
  | .userOutput => stats.outputs

theorem ByteStream.Sink.send_fst (s : Sink) (bytes : Bytes) : (s.send bytes).1 = (s.write bytes).1 := by
  unfold Sink.send
  split <;> simp_all

namespace Bridge

structure Made where
  before : Bridge
  call : Call

namespace Made

def after (made : Made) : Bridge :=
  (made.before.perform made.call).1

def result (made : Made) : Option (Except BridgeError Reply) :=
  (made.before.perform made.call).2

def succeeded (made : Made) : Bool :=
  match made.result with
  | some (.ok _) => true
  | _ => false

theorem succeeded_iff {made : Made} : made.succeeded ↔ ∃ reply, made.result = some (.ok reply) := by
  unfold succeeded
  split <;> simp_all

end Made

/-- What happens to a bridge: a call, or the end of the engine's input. -/
inductive Event where
  | call (made : Made)
  | close

/-- A step of a run: a call that returns, the close of the engine's input, or something that others do. -/
inductive Step (others : Bridge → Bridge → Prop) : Bridge → Option Event → Bridge → Prop where
  | call (b : Bridge) (call : Call) (returns : (b.perform call).2 ≠ none) :
    Step others b (some (.call ⟨b, call⟩)) (b.perform call).1
  | close (b : Bridge) : Step others b (some .close) b.closeInput
  | others {b b' : Bridge} (changed : others b b') : Step others b none b'

/-! ### One call -/

/-- What a call does to a bridge. It writes to one of the sinks at most; its primitive is counted if it succeeds;
only a receive that succeeds changes the queue; and only a request for input reads what the operator types. -/
structure Effect (b : Bridge) (call : Call) (after : Bridge) (result : Option (Except BridgeError Reply)) :
    Prop where
  engine : after.engine = if b.engineOpen then (b.engine.write call.sent).1 else b.engine
  screen : after.screen = (b.screen.write call.shown).1
  isOpen : after.engineOpen = b.engineOpen
  counted : ∀ reply, result = some (.ok reply) → ∀ command,
    after.stats.of command = b.stats.of command + if call.command = command then 1 else 0
  uncounted : (∀ reply, result ≠ some (.ok reply)) → after.stats = b.stats
  taken : ∀ v, result = some (.ok (.value v)) → b.queue = { after.queue with items := v :: after.queue.items }
  untaken : (∀ v, result ≠ some (.ok (.value v))) → after.queue = b.queue
  unread : (∀ label, call ≠ .input label) → after.answers = b.answers

section Calls
attribute [local irreducible] Utf8.encode

variable {b after : Bridge} {call : Call}

theorem Effect.of_failure {result : Option (Except BridgeError Reply)} (failed : ∀ reply, result ≠ some (.ok reply))
    (engine : after.engine = if b.engineOpen then (b.engine.write call.sent).1 else b.engine)
    (screen : after.screen = (b.screen.write call.shown).1) (isOpen : after.engineOpen = b.engineOpen)
    (stats : after.stats = b.stats) (queue : after.queue = b.queue)
    (unread : (∀ label, call ≠ .input label) → after.answers = b.answers) : Effect b call after result :=
  ⟨engine, screen, isOpen, fun reply returned => absurd returned (failed reply), fun _ => stats,
    fun v returned => absurd returned (failed (.value v)), fun _ => queue, unread⟩

theorem Effect.of_success {reply : Reply} (other : ∀ v, reply ≠ .value v)
    (engine : after.engine = if b.engineOpen then (b.engine.write call.sent).1 else b.engine)
    (screen : after.screen = (b.screen.write call.shown).1) (isOpen : after.engineOpen = b.engineOpen)
    (stats : ∀ command, after.stats.of command = b.stats.of command + if call.command = command then 1 else 0)
    (queue : after.queue = b.queue) (unread : (∀ label, call ≠ .input label) → after.answers = b.answers) :
    Effect b call after (some (.ok reply)) :=
  ⟨engine, screen, isOpen, fun _ _ => stats, fun failed => absurd rfl (failed reply),
    fun v returned => absurd (Except.ok.inj (Option.some.inj returned)) (other v), fun _ => queue, unread⟩

variable (b)

theorem display_eq (text : String) :
    b.display text = ({ b with screen := (b.screen.write (Utf8.encode text)).1 },
      (b.screen.send (Utf8.encode text)).2.mapError fun fault => .operator fault.message) := by
  rw [display, ← Sink.send_fst]
  rcases b.screen.send (Utf8.encode text) with ⟨screen, fault | ⟨⟩⟩ <;> rfl

theorem input_effect (label : String) :
    Effect b (.input label) (b.perform (.input label)).1 (b.perform (.input label)).2 := by
  have shown := b.display_eq ("input " ++ label ++ " : ")
  have engine : b.engine = if b.engineOpen then (b.engine.write []).1 else b.engine := (ite_self _).symm
  delta perform input
  dsimp only
  rw [shown]
  cases (b.screen.send (Utf8.encode ("input " ++ label ++ " : "))).2 with
  | error fault => exact .of_failure nofun engine rfl rfl rfl rfl fun other => absurd rfl (other label)
  | ok =>
    dsimp only [Except.mapError]
    split
    · exact .of_failure nofun engine rfl rfl rfl rfl fun other => absurd rfl (other label)
    · exact .of_success nofun engine rfl rfl (fun command => by cases command <;> rfl) rfl fun other =>
        absurd rfl (other label)

theorem output_effect (text : String) :
    Effect b (.output text) (b.perform (.output text)).1 (b.perform (.output text)).2 := by
  have shown := b.display_eq ("output: " ++ text ++ "\n")
  have engine : b.engine = if b.engineOpen then (b.engine.write []).1 else b.engine := (ite_self _).symm
  delta perform output
  dsimp only
  rw [shown]
  cases (b.screen.send (Utf8.encode ("output: " ++ text ++ "\n"))).2 with
  | error fault => exact .of_failure nofun engine rfl rfl rfl rfl fun _ => rfl
  | ok => exact .of_success nofun engine rfl rfl (fun command => by cases command <;> rfl) rfl fun _ => rfl

theorem send_effect (text : String) :
    Effect b (.send text) (b.perform (.send text)).1 (b.perform (.send text)).2 := by
  have wrote := b.engine.send_fst (Utf8.encode (text ++ "\n"))
  delta perform send
  dsimp only
  cases isOpen : b.engineOpen with
  | false => exact .of_failure nofun (by simp [isOpen]) rfl rfl rfl rfl fun _ => rfl
  | true =>
    simp only [Bool.not_true, Bool.false_eq_true, if_false]
    rcases sent : b.engine.send (Utf8.encode (text ++ "\n")) with ⟨engine, fault | ⟨⟩⟩
    all_goals
      rw [sent] at wrote
      have stored : engine = if b.engineOpen then (b.engine.write (Call.send text).sent).1 else b.engine := by
        rw [if_pos isOpen]
        exact wrote
    · exact .of_failure nofun stored rfl isOpen.symm rfl rfl fun _ => rfl
    · exact .of_success nofun stored rfl isOpen.symm (fun command => by cases command <;> rfl) rfl fun _ => rfl

/-- A receive takes the oldest value of the queue, or finds none and changes nothing. -/
theorem receive_cases :
    (∃ v rest notes, b.queue.items = v :: rest ∧
      b.receive = ({ b with
        queue := { b.queue with items := rest }
        stats := { b.stats with received := b.stats.received + 1 }
        notes }, some (.ok v))) ∨
    ∃ result, b.receive = (b, result) ∧ ∀ v, result ≠ some (.ok v) := by
  obtain ⟨engine, engineOpen, ⟨items, closed⟩, answers, screen, timeout, stats, notes⟩ := b
  cases items with
  | cons v rest => exact .inl ⟨v, rest, _, rfl, by cases timeout <;> rfl⟩
  | nil =>
    right
    cases timeout with
    | none =>
      cases closed with
      | none => exact ⟨none, rfl, fun v => by simp⟩
      | some reason => exact ⟨some (.error (.engineTerminated reason)), rfl, fun v => by simp⟩
    | some nanos =>
      cases closed with
      | none => exact ⟨some (.error (.receiveTimeout nanos)), rfl, fun v => by simp⟩
      | some reason => exact ⟨some (.error (.engineTerminated reason)), rfl, fun v => by simp⟩

theorem receive_effect : Effect b .receive (b.perform .receive).1 (b.perform .receive).2 := by
  have engine : b.engine = if b.engineOpen then (b.engine.write []).1 else b.engine := (ite_self _).symm
  delta perform
  dsimp only
  obtain ⟨v, rest, notes, items, took⟩ | ⟨result, none, failed⟩ := b.receive_cases
  · rw [took]
    refine ⟨engine, rfl, rfl, fun _ _ command => by cases command <;> rfl, fun failed => absurd rfl (failed _), ?_,
      fun failed => absurd rfl (failed v), fun _ => rfl⟩
    rintro v ⟨⟩
    exact congrArg (ValueQueue.mk · b.queue.closed) items
  · rw [none]
    refine .of_failure ?_ engine rfl rfl rfl rfl fun _ => rfl
    rintro reply returned
    rcases result with _ | e | v
    · cases returned
    · cases returned
    · exact failed v rfl

/-- Every call has its effect. -/
theorem perform_effect (call : Call) : Effect b call (b.perform call).1 (b.perform call).2 := by
  cases call with
  | input label => exact b.input_effect label
  | send text => exact b.send_effect text
  | receive => exact b.receive_effect
  | output text => exact b.output_effect text

end Calls

/-! ### Runs -/

/-- What others do to a bridge: the queue is theirs, and the sinks change the manner in which they take bytes, but
not what they hold nor how much room they have. -/
inductive Beside : Bridge → Bridge → Prop where
  | queue (b : Bridge) (queue : ValueQueue) : Beside b { b with queue }
  | engine (b : Bridge) (perWrite : Option Nat) (whenFull : WriteFault) (refusesFlush : Bool)
    (moves : perWrite ≠ some 0) :
    Beside b { b with engine := { b.engine with perWrite, whenFull, refusesFlush } }
  | screen (b : Bridge) (perWrite : Option Nat) (whenFull : WriteFault) (refusesFlush : Bool)
    (moves : perWrite ≠ some 0) :
    Beside b { b with screen := { b.screen with perWrite, whenFull, refusesFlush } }

namespace Event

def isCall : Event → Bool
  | .call _ => true
  | .close => false

def sent : Event → Bytes
  | .call made => made.call.sent
  | .close => []

def shown : Event → Bytes
  | .call made => made.call.shown
  | .close => []

/-- Whether a call of a primitive succeeded. -/
def counts (command : Command) : Event → Bool
  | .call made => made.call.command = command && made.succeeded
  | .close => false

end Event

/-- What is to be written to the engine before its input is closed. -/
def sentBy (h : List Event) : Bytes :=
  (h.takeWhile Event.isCall).flatMap Event.sent

structure Books (n m : Nat) (h : List Event) (b : Bridge) : Prop where
  engineLimited : b.engine.Limited n
  screenLimited : b.screen.Limited m
  isOpen : b.engineOpen = h.all Event.isCall
  engine : b.engine.stored = (sentBy h).take n
  screen : b.screen.stored = (h.flatMap Event.shown).take m
  counts : ∀ command, b.stats.of command = h.countP (Event.counts command)

section Runs
variable {n m : Nat} {h : List Event} {b b' : Bridge}

theorem sentBy_snoc (h : List Event) (e : Event) :
    sentBy (h ++ [e]) = sentBy h ++ if h.all Event.isCall then e.sent else [] := by
  cases all : h.all Event.isCall with
  | true =>
    have calls := List.all_eq_true.mp all
    rw [sentBy, sentBy, List.takeWhile_append_of_pos calls, List.flatMap_append,
      List.takeWhile_eq_self_iff.mpr calls]
    cases e <;> simp [List.takeWhile, Event.isCall, Event.sent]
  | false =>
    obtain ⟨closed, member, isClose⟩ := List.all_eq_false.mp all
    have stops : (h.takeWhile Event.isCall).length ≠ h.length := by
      intro whole
      have same := (List.takeWhile_prefix Event.isCall).eq_of_length whole
      exact isClose (List.mem_takeWhile_imp (same ▸ member))
    rw [sentBy, sentBy, List.takeWhile_append, if_neg stops]
    simp

theorem Books.call (books : Books n m h b) (call : Call) :
    Books n m (h ++ [.call ⟨b, call⟩]) (b.perform call).1 := by
  have effect := b.perform_effect call
  refine ⟨?_, ?_, ?_, ?_, ?_, ?_⟩
  · rw [effect.engine]
    split
    · exact books.engineLimited.after_write _
    · exact books.engineLimited
  · rw [effect.screen]
    exact books.screenLimited.after_write _
  · rw [effect.isOpen, books.isOpen]
    simp [Event.isCall]
  · rw [effect.engine, sentBy_snoc, ← books.isOpen]
    split
    · exact books.engineLimited.stored_write books.engine _
    · rw [List.append_nil, books.engine]
  · rw [effect.screen, List.flatMap_append, List.flatMap_singleton]
    exact books.screenLimited.stored_write books.screen _
  · intro command
    rw [List.countP_append, List.countP_singleton, ← books.counts]
    cases succeeded : (Made.mk b call).succeeded with
    | true =>
      obtain ⟨reply, returned⟩ := Made.succeeded_iff.mp succeeded
      simp [effect.counted reply returned command, Event.counts, succeeded]
    | false =>
      have failed : ∀ reply, (b.perform call).2 ≠ some (.ok reply) := by
        intro reply returned
        have : (Made.mk b call).succeeded := Made.succeeded_iff.mpr ⟨reply, returned⟩
        simp [this] at succeeded
      simp [effect.uncounted failed, Event.counts, succeeded]

theorem engineOpen_closeInput (b : Bridge) : b.closeInput.engineOpen = false := by
  unfold closeInput
  split
  · rfl
  · simpa using ‹¬ b.engineOpen = true›

theorem Books.close (books : Books n m h b) : Books n m (h ++ [.close]) b.closeInput := by
  have same : b.closeInput.engine = b.engine ∧ b.closeInput.screen = b.screen ∧
      b.closeInput.stats = b.stats := by
    unfold closeInput
    split <;> exact ⟨rfl, rfl, rfl⟩
  obtain ⟨engine, screen, stats⟩ := same
  refine ⟨engine ▸ books.engineLimited, screen ▸ books.screenLimited, ?_, ?_, ?_, ?_⟩
  · rw [engineOpen_closeInput]
    simp [Event.isCall]
  · rw [engine, sentBy_snoc, books.engine]
    simp [Event.sent]
  · rw [screen, books.screen]
    simp [Event.shown]
  · intro command
    rw [stats, books.counts]
    simp [Event.counts]

theorem Books.beside (books : Books n m h b) (beside : Beside b b') : Books n m h b' := by
  cases beside with
  | queue queue => exact ⟨books.1, books.2, books.3, books.4, books.5, books.6⟩
  | engine perWrite whenFull refusesFlush moves =>
    exact ⟨⟨books.engineLimited.room, moves⟩, books.2, books.3, books.4, books.5, books.6⟩
  | screen perWrite whenFull refusesFlush moves =>
    exact ⟨books.1, ⟨books.screenLimited.room, moves⟩, books.3, books.4, books.5, books.6⟩

theorem run_books {engine screen : Sink} (engineSink : engine.Limited n) (screenSink : screen.Limited m)
    (engineFresh : engine.stored = []) (screenFresh : screen.stored = []) {queue : ValueQueue}
    {answers : List LineRead} {timeout : Option Nat}
    (run : Run (Step Beside) (.start engine screen queue answers timeout) h b) : Books n m h b := by
  induction run with
  | refl =>
    refine ⟨engineSink, screenSink, rfl, ?_, ?_, fun command => by cases command <;> rfl⟩
    · simpa [sentBy, start] using engineFresh
    · simpa [start] using screenFresh
  | tail _ step ih =>
    cases step with
    | call call returns => exact ih.call call
    | close => exact ih.close
    | others changed => simpa using ih.beside changed

/-- What every call keeps to: it is not counted if it fails; only a value that it returns leaves the queue; and each
sink has of it what it would have in whatever pieces it took the bytes. -/
structure Made.Lawful (made : Made) : Prop where
  uncounted : made.succeeded = false → made.after.stats = made.before.stats
  taken : ∀ v, made.result = some (.ok (.value v)) →
    made.before.queue = { made.after.queue with items := v :: made.after.queue.items }
  untaken : (∀ v, made.result ≠ some (.ok (.value v))) → made.after.queue = made.before.queue
  engine : made.before.engineOpen → ∀ sink outcome,
    made.before.engine.Accepts made.call.sent sink outcome → made.after.engine = sink
  screen : ∀ sink outcome, made.before.screen.Accepts made.call.shown sink outcome → made.after.screen = sink

theorem Books.lawful (books : Books n m h b) (call : Call) : (Made.mk b call).Lawful := by
  have effect := b.perform_effect call
  refine ⟨fun failed => effect.uncounted ?_, effect.taken, effect.untaken, ?_, ?_⟩
  · intro reply returned
    have : (Made.mk b call).succeeded := Made.succeeded_iff.mpr ⟨reply, returned⟩
    simp [this] at failed
  · intro isOpen sink outcome accepts
    have wrote := books.engineLimited.accepts_iff.mp accepts
    exact effect.engine.trans (by rw [if_pos isOpen, wrote])
  · intro sink outcome accepts
    have wrote := books.screenLimited.accepts_iff.mp accepts
    exact effect.screen.trans (by rw [wrote])

/-- Only a receive can be kept waiting. -/
theorem Step.of_call {others : Bridge → Bridge → Prop} (b : Bridge) (call : Call) (other : call ≠ .receive) :
    Step others b (some (.call ⟨b, call⟩)) (b.perform call).1 := by
  refine .call b call ?_
  cases call with
  | receive => contradiction
  | input label => simp [perform]
  | send text => simp [perform]
  | output text => simp [perform]

theorem send_closed (closed : b.engineOpen = false) (text : String) :
    b.perform (.send text) = (b, some (.error .engineInputClosed)) := by
  delta perform send
  simp [closed, Except.map]

/-- Calls of a driver on a bridge whose sinks have room for `n` and `m` bytes, whatever others do meanwhile. Each
count is the number of the calls of its primitive that succeeded. The engine's input is the first `n` bytes of the
lines that were to be sent before it was closed, and the screen is the first `m` bytes of what was to be shown. Every
call is lawful; and a send after the close fails for that reason and changes nothing. -/
theorem calls_law {engine screen : Sink} (engineSink : engine.Limited n) (screenSink : screen.Limited m)
    (engineFresh : engine.stored = []) (screenFresh : screen.stored = []) {queue : ValueQueue}
    {answers : List LineRead} {timeout : Option Nat} {after : Bridge}
    (run : Run (Step Beside) (.start engine screen queue answers timeout) h after) :
    (∀ command, after.stats.of command = h.countP (Event.counts command)) ∧
    after.engine.stored = ((h.takeWhile Event.isCall).flatMap Event.sent).take n ∧
    after.screen.stored = (h.flatMap Event.shown).take m ∧
    (∀ made, .call made ∈ h → made.Lawful) ∧
    ∀ early late, h = early ++ .close :: late → ∀ made, .call made ∈ late → ∀ text, made.call = .send text →
      made.result = some (.error .engineInputClosed) ∧ made.after = made.before := by
  have books {h : List Event} {b : Bridge}
      (run : Run (Step Beside) (.start engine screen queue answers timeout) h b) : Books n m h b :=
    run_books engineSink screenSink engineFresh screenFresh run
  refine ⟨(books run).counts, (books run).engine, (books run).screen, ?_, ?_⟩
  · intro made listed
    obtain ⟨before, behind, rfl⟩ := List.append_of_mem listed
    obtain ⟨b, b', earlier, step, -⟩ := run.split
    cases step with
    | call call returns => exact (books earlier).lawful call
  · rintro early late rfl made listed text isSend
    obtain ⟨between, behind, rfl⟩ := List.append_of_mem listed
    rw [← List.cons_append, ← List.append_assoc] at run
    obtain ⟨b, b', earlier, step, -⟩ := run.split
    have closed : b.engineOpen = false := by
      rw [(books earlier).isOpen]
      simp [Event.isCall]
    cases step with
    | call call returns =>
      obtain rfl : call = .send text := isSend
      have nothing := send_closed closed text
      exact ⟨congrArg Prod.snd nothing, congrArg Prod.fst nothing⟩

end Runs

/-- A bridge to an engine with room for four bytes, taken two at a time, and a screen with room for eight. -/
def tightBridge : Bridge :=
  .start ⟨[], some 2, some 4, .brokenPipe, false⟩ ⟨[], none, some 8, .noProgress, false⟩ .empty [] none

/-- The second line is torn and nothing follows it, not even after a value has come and been received. -/
theorem calls_law_tight : ∃ h after, Run (Step Beside) tightBridge h after ∧ h.length = 7 ∧
    after.engine.stored = Utf8.encode "ab\nc" ∧ after.screen.stored = Utf8.encode "output: " ∧
    after.stats.of .sendToEngine = 1 ∧ after.stats.of .receiveFromEngine = 1 := by
  let b₁ := (tightBridge.perform (.send "ab")).1
  let b₂ := (b₁.perform (.send "cd")).1
  let b₃ := (b₂.perform (.send "e")).1
  let b₄ := { b₃ with queue := ⟨[7], none⟩ }
  let b₅ := (b₄.perform .receive).1
  let b₆ := b₅.closeInput
  let b₇ := (b₆.perform (.send "f")).1
  have torn : Run (Step Beside) tightBridge
      [.call ⟨tightBridge, .send "ab"⟩, .call ⟨b₁, .send "cd"⟩, .call ⟨b₂, .send "e"⟩] b₄ :=
    (((Run.refl.event (.of_call tightBridge (.send "ab") nofun)).event (.of_call b₁ (.send "cd") nofun)).event
      (.of_call b₂ (.send "e") nofun)).quiet (.others (.queue b₃ ⟨[7], none⟩))
  have run : Run (Step Beside) tightBridge
      [.call ⟨tightBridge, .send "ab"⟩, .call ⟨b₁, .send "cd"⟩, .call ⟨b₂, .send "e"⟩, .call ⟨b₄, .receive⟩, .close,
        .call ⟨b₆, .send "f"⟩, .call ⟨b₇, .output "x"⟩] (b₇.perform (.output "x")).1 :=
    (((torn.event (.call b₄ .receive (by decide +kernel))).event (.close b₅)).event
      (.of_call b₆ (.send "f") nofun)).event (.of_call b₇ (.output "x") nofun)
  obtain ⟨counts, engine, screen, -, -⟩ := calls_law (n := 4) (m := 8) ⟨rfl, by decide⟩ ⟨rfl, by decide⟩ rfl rfl run
  exact ⟨_, _, run, rfl, engine.trans (by decide +kernel), screen.trans (by decide +kernel),
    (counts _).trans (by decide +kernel), (counts _).trans (by decide +kernel)⟩

end Bridge
end PartyBridge
