import PartyBridge.Journal.Ledger
import PartyBridge.Proofs.Bridge.Discretion
import PartyBridge.Proofs.Bridge.Runs
import PartyBridge.Proofs.EngineOutput.Discretion

/-!
# What content adds to the log

Where events are logged and content is not, the readers of an engine and the calls of a driver leave the same log
whatever was said; where nothing is logged, they leave none (`content_withheld`).
-/

namespace PartyBridge.Journal

namespace Ledger

theorem writeLine_level (ledger : Ledger) (line : String) : (ledger.writeLine line).level = ledger.level := by
  unfold writeLine
  split <;> rfl

theorem configure_level (ledger : Ledger) (level : Level) : (ledger.configure level).level = level := by
  unfold configure
  split
  · rfl
  · split <;> rfl

/-- What is written are the messages of the ledger's level, one after another. -/
theorem notes_eq (ledger : Ledger) (seconds : Nat) (ns : List Note) :
    ledger.notes seconds ns =
      (ledger.level.messages ns).foldl (fun ledger message => ledger.writeLine (stamped seconds message)) ledger := by
  induction ns generalizing ledger with
  | nil => rfl
  | cons n ns ih =>
    have step : ledger.notes seconds (n :: ns) = (ledger.note seconds n).notes seconds ns := rfl
    rw [step, ih, note]
    by_cases admitted : ledger.level.admits n
    · simp [admitted, writeLine_level, Level.messages]
    · simp [admitted, Level.messages]

end Ledger

/-- Notes that cannot be told apart in the log: they have the same messages there, and lead to the same files. -/
structure SameLog (level : Level) (ns ns' : List Note) : Prop where
  messages : level.messages ns = level.messages ns'
  files : ∀ (ledger : Ledger) (seconds : Nat),
    (ledger.configure level).notes seconds ns = (ledger.configure level).notes seconds ns'

theorem SameLog.of_messages {level : Level} {ns ns' : List Note} (same : level.messages ns = level.messages ns') :
    SameLog level ns ns' := by
  refine ⟨same, ?_⟩
  intro ledger seconds
  rw [Ledger.notes_eq, Ledger.notes_eq, Ledger.configure_level, same]

/-- Notes are kept newest first, and written in the order in which they were made. -/
theorem SameLog.of_told {ns ns' : List Note} (same : Level.events.messages ns = Level.events.messages ns') :
    SameLog .events ns.reverse ns'.reverse := by
  apply SameLog.of_messages
  rw [messages_reverse, messages_reverse, same]

end PartyBridge.Journal

namespace PartyBridge.Bridge
open Journal
open Driver (Command)

/-- What others do to a bridge when they neither write notes nor close the engine's input. -/
def Elsewhere (b b' : Bridge) : Prop :=
  b'.notes = b.notes ∧ b'.engineOpen = b.engineOpen

def Event.primitive? : Event → Option Command
  | .call made => some made.call.command
  | .close => none

theorem Event.isSome_primitive? (e : Event) : e.primitive?.isSome = e.isCall := by
  cases e <;> rfl

theorem told_closeInput (b : Bridge) :
    b.closeInput.told = if b.engineOpen then "Engine stdin closed" :: b.told else b.told := by
  unfold closeInput
  split <;> rfl

/-- A run tells of the first close, and of nothing else. -/
theorem run_told {b b' : Bridge} {h : List Event} (isOpen : b.engineOpen) (silent : b.notes = [])
    (run : Run (Step Elsewhere) b h b') :
    b'.engineOpen = h.all Event.isCall ∧ b'.told = if h.all Event.isCall then [] else ["Engine stdin closed"] := by
  -- Whether a close is told depends on whether the input is still open, so the two go together.
  induction run with
  | refl => exact ⟨isOpen, congrArg Level.events.messages silent⟩
  | @tail h e t u _ step ih =>
    obtain ⟨stays, told⟩ := ih
    cases step with
    | call call returns =>
      rw [(t.perform_effect call).isOpen, t.perform_discreet, stays, told]
      simp [Event.isCall]
    | close =>
      rw [engineOpen_closeInput, told_closeInput, stays, told]
      cases h.all Event.isCall <;> simp [Event.isCall]
    | others changed =>
      obtain ⟨notes, same⟩ := changed
      have kept : u.told = t.told := congrArg Level.events.messages notes
      rw [same, kept, Option.toList_none, List.append_nil]
      exact ⟨stays, told⟩

theorem all_isCall_congr {h h' : List Event} (same : h.map Event.primitive? = h'.map Event.primitive?) :
    h.all Event.isCall = h'.all Event.isCall := by
  have calls : ∀ h : List Event, h.all Event.isCall = (h.map Event.primitive?).all Option.isSome := by
    intro h
    rw [List.all_map]
    exact congrArg h.all (funext fun e => e.isSome_primitive?.symm)
  rw [calls, calls, same]

end PartyBridge.Bridge

namespace PartyBridge.Journal
open ByteStream EngineOutput

/-- Without content, two drains of lines of the same kinds leave the same log, also where others use their queues
and where they are told to stop; so do two runs of the same calls, whatever is asked, answered, sent, received and
shown, and two readings of as many lines of diagnostics. Where nothing is to be logged, nothing is. -/
theorem content_withheld :
    (∀ (marker : List Char) (capacity capacity' : Nat) (events events' : List ByteStream.Event)
        (queue queue' : ValueQueue), queue.closed = queue'.closed → failure? events = failure? events' →
      List.Forall₂ (SameKind marker) (streamLines events) (streamLines events') →
      SameLog (.ofSwitches true false) (drain marker capacity events queue).notes.reverse
        (drain marker capacity' events' queue').notes.reverse) ∧
    (∀ (marker : List Char) (queue queue' : ValueQueue) (turns turns' : List Drain.Turn) (ending : Drain.Ending),
      queue.closed = queue'.closed → List.Forall₂ (Drain.Turn.Alike marker) turns turns' →
      SameLog (.ofSwitches true false) (Drain.course marker queue turns ending).notes.reverse
        (Drain.course marker queue' turns' ending).notes.reverse) ∧
    (∀ (engine screen engine' screen' : Sink) (queue queue' : ValueQueue) (answers answers' : List LineRead)
        (timeout timeout' : Option Nat) (h h' : List Bridge.Event) (b b' : Bridge),
      Run (Bridge.Step Bridge.Elsewhere) (.start engine screen queue answers timeout) h b →
      Run (Bridge.Step Bridge.Elsewhere) (.start engine' screen' queue' answers' timeout') h' b' →
      h.map Bridge.Event.primitive? = h'.map Bridge.Event.primitive? →
      SameLog (.ofSwitches true false) b.notes.reverse b'.notes.reverse) ∧
    (∀ (capacity capacity' : Nat) (events events' : List ByteStream.Event),
      (streamLines events).length = (streamLines events').length →
      SameLog (.ofSwitches true false) (diagnostics capacity events).notes.reverse
        (diagnostics capacity' events').notes.reverse) ∧
    ∀ (withContent : Bool) (notes : List Note), let level := Level.ofSwitches false withContent
      level.messages notes = [] ∧ ∀ (ledger : Ledger) (seconds : Nat),
        (ledger.configure level).notes seconds notes = ledger.configure level ∧
          (ledger.configure level).log = ledger.log := by
  have courses {marker : List Char} {queue queue' : ValueQueue} {turns turns' : List Drain.Turn}
      {ending : Drain.Ending} (closed : queue.closed = queue'.closed)
      (alike : List.Forall₂ (Drain.Turn.Alike marker) turns turns') :
      SameLog .events (Drain.course marker queue turns ending).notes.reverse
        (Drain.course marker queue' turns' ending).notes.reverse :=
    .of_told (Drain.course_matches closed alike ending).told
  refine ⟨?_, ?_, ?_, ?_, ?_⟩
  · intro marker capacity capacity' events events' queue queue' closed fails same
    rw [drain_eq_course, drain_eq_course, endingOf, fails]
    exact courses closed (turns_alike same)
  · intro marker queue queue' turns turns' ending closed alike
    exact courses closed alike
  · intro engine screen engine' screen' queue queue' answers answers' timeout timeout' h h' b b' run run' same
    have told := (Bridge.run_told rfl rfl run).2
    have told' := (Bridge.run_told rfl rfl run').2
    rw [← Bridge.all_isCall_congr same] at told'
    exact .of_told (told.trans told'.symm)
  · intro capacity capacity' events events' length
    apply SameLog.of_told
    rw [diagnostics_told, diagnostics_told, length]
  · intro withContent notes
    have nothing : Level.off.messages notes = [] := by simp [Level.messages, Level.admits]
    refine ⟨nothing, ?_⟩
    intro ledger seconds
    refine ⟨?_, rfl⟩
    rw [Ledger.notes_eq, Ledger.configure_level]
    exact congrArg (List.foldl _ _) nothing

/-- The lines, the queue, the call and the diagnostics differ, and so do the logs with content. -/
theorem content_withheld_secrets :
    let d := drain ['M'] 4 [.chunk (Utf8.encode "M 1\nM x\nhello")] ⟨[5], none⟩
    let d' := drain ['M'] 64 [.chunk (Utf8.encode "M 22\nM"), .interrupt, .chunk (Utf8.encode " yz\nbye\n")] .empty
    let stopped := Drain.course ['M'] .empty [.line (Utf8.encode "M 1\n"), .others ⟨[], some .cancelled⟩] .stopped
    let stopped' := Drain.course ['M'] .empty [.line (Utf8.encode "M 2\n"), .others ⟨[2], some .cancelled⟩] .stopped
    let sink : Sink := ⟨[], none, none, .brokenPipe, false⟩
    let b := ((Bridge.start sink sink .empty [] none).perform (.send "7")).1.closeInput
    let b' := ((Bridge.start sink sink .empty [] none).perform (.send "8")).1.closeInput
    let errors := diagnostics 8 [.chunk (Utf8.encode "warning\n")]
    let errors' := diagnostics 8 [.chunk (Utf8.encode "x"), .interrupt]
    (SameLog .events d.notes.reverse d'.notes.reverse ∧ d.notes ≠ d'.notes) ∧
    (SameLog .events stopped.notes.reverse stopped'.notes.reverse ∧ stopped.notes ≠ stopped'.notes) ∧
    (SameLog .events b.notes.reverse b'.notes.reverse ∧ b.notes ≠ b'.notes) ∧
    (SameLog .events errors.notes.reverse errors'.notes.reverse ∧ errors.notes ≠ errors'.notes) ∧
    Level.off.messages d.notes = [] := by
  obtain ⟨drains, courses, runs, readings, nothing⟩ := content_withheld
  intro d d' stopped stopped' sink b b' errors errors'
  refine ⟨⟨?_, by decide +kernel⟩, ⟨?_, by decide +kernel⟩, ⟨?_, by decide +kernel⟩, ⟨?_, by decide +kernel⟩, ?_⟩
  · have kinds : (streamLines [.chunk (Utf8.encode "M 1\nM x\nhello")]).map (lineKind ['M']) =
        [.value 1, .malformed, .untagged] := by decide +kernel
    have kinds' : (streamLines [.chunk (Utf8.encode "M 22\nM"), .interrupt,
        .chunk (Utf8.encode " yz\nbye\n")]).map (lineKind ['M']) = [.value 22, .malformed, .untagged] := by
      decide +kernel
    have alike : List.Forall₂ LineKind.Alike [.value 1, .malformed, .untagged] [.value 22, .malformed, .untagged] :=
      .cons (.value 1 22) (.cons .malformed (.cons .untagged .nil))
    rw [← kinds, ← kinds', List.forall₂_map_left_iff, List.forall₂_map_right_iff] at alike
    exact drains ['M'] 4 64 _ _ ⟨[5], none⟩ .empty rfl rfl alike
  · refine courses ['M'] .empty .empty _ _ .stopped rfl (.cons (.line ?_) (.cons (.others rfl) .nil))
    have kind : lineKind ['M'] (Utf8.encode "M 1\n") = .value 1 := by decide +kernel
    have kind' : lineKind ['M'] (Utf8.encode "M 2\n") = .value 2 := by decide +kernel
    rw [SameKind, kind, kind']
    exact .value 1 2
  · let fresh := Bridge.start sink sink .empty [] none
    have run (text : String) : Run (Bridge.Step Bridge.Elsewhere) fresh [.call ⟨fresh, .send text⟩, .close]
        (fresh.perform (.send text)).1.closeInput :=
      (Run.refl.event (.of_call fresh (.send text) nofun)).event (.close _)
    exact runs sink sink sink sink .empty .empty [] [] none none _ _ b b' (run "7") (run "8") rfl
  · exact readings 8 8 _ _ (by decide)
  · exact (nothing true d.notes).1

end PartyBridge.Journal
