import Mathlib.Data.List.Forall2
import PartyBridge.EngineOutput.Diagnostics
import PartyBridge.EngineOutput.Feed
import PartyBridge.Proofs.EngineOutput.Stream

/-!
# The discretion of the readers

What the readers of an engine's output and of its diagnostics tell a log without content depends on the kinds and
the number of the lines, and not on what they say (`Drain.course_matches`, `diagnostics_told`).
-/

namespace PartyBridge.Journal

theorem messages_event (text : String) (notes : List Note) :
    Level.events.messages (event text :: notes) = text :: Level.events.messages notes := rfl

theorem messages_reverse (level : Level) (notes : List Note) :
    level.messages notes.reverse = (level.messages notes).reverse := by
  simp [Level.messages]

end PartyBridge.Journal

namespace PartyBridge.EngineOutput
open Journal ByteStream

inductive LineKind.Alike : LineKind → LineKind → Prop where
  | value (v v' : Int64) : Alike (.value v) (.value v')
  | malformed : Alike .malformed .malformed
  | untagged : Alike .untagged .untagged

def SameKind (marker : List Char) (line line' : Bytes) : Prop :=
  (lineKind marker line).Alike (lineKind marker line')

namespace Drain

/-- Two drains that a log without content does not tell apart, now or later. -/
structure Matches (d d' : Drain) : Prop where
  stats : d.stats = d'.stats
  closed : d.queue.closed = d'.queue.closed
  told : Level.events.messages d.notes = Level.events.messages d'.notes

variable {marker : List Char} {d d' : Drain}

theorem Matches.line (matched : Matches d d') {bytes bytes' : Bytes} (same : SameKind marker bytes bytes') :
    Matches (d.line marker bytes) (d'.line marker bytes') := by
  obtain ⟨stats, ⟨items, closed⟩, notes⟩ := d
  obtain ⟨stats', ⟨items', closed'⟩, notes'⟩ := d'
  obtain ⟨rfl, rfl, told⟩ := matched
  unfold Drain.line
  dsimp only at told ⊢
  generalize kind : classify marker (lineText bytes) = k
  generalize kind' : classify marker (lineText bytes') = k'
  have alike : k.Alike k' := by
    rw [← kind, ← kind']
    exact same
  cases alike with
  | value v v' =>
    -- Whether a value is taken or dropped is up to the queue, whatever the value.
    cases closed with
    | none => exact ⟨rfl, rfl, told⟩
    | some reason => exact ⟨rfl, rfl, told⟩
  | malformed => exact ⟨rfl, rfl, congrArg (List.cons _) told⟩
  | untagged => exact ⟨rfl, rfl, told⟩

theorem Matches.fault (matched : Matches d d') (message : String) : Matches (d.fault message) (d'.fault message) :=
  ⟨matched.stats, matched.closed, congrArg (List.cons _) matched.told⟩

theorem Matches.finish (matched : Matches d d') (reason : CloseReason) :
    Matches (d.finish reason) (d'.finish reason) := by
  obtain ⟨stats, ⟨items, closed⟩, notes⟩ := d
  obtain ⟨stats', ⟨items', closed'⟩, notes'⟩ := d'
  obtain ⟨rfl, rfl, told⟩ := matched
  unfold Drain.finish
  cases closed with
  | none => exact ⟨rfl, rfl, congrArg (fun lines => _ :: _ :: lines) told⟩
  | some first => exact ⟨rfl, rfl, congrArg (List.cons _) told⟩

/-! ### Courses -/

/-- What a drain goes through: it reads a line, or others change its queue. -/
inductive Turn where
  | line (bytes : Bytes)
  | others (queue : ValueQueue)

/-- How a drain comes to its end: with its output, by a read that fails, or because it is told to stop. -/
inductive Ending where
  | ended
  | failed (message : String)
  | stopped

/-- Two turns of the same kind; others leave the two queues both open, or both closed for the same reason. -/
inductive Turn.Alike (marker : List Char) : Turn → Turn → Prop where
  | line {bytes bytes' : Bytes} (same : SameKind marker bytes bytes') : Alike marker (.line bytes) (.line bytes')
  | others {queue queue' : ValueQueue} (closed : queue.closed = queue'.closed) :
      Alike marker (.others queue) (.others queue')

def turn (marker : List Char) (d : Drain) : Turn → Drain
  | .line bytes => d.line marker bytes
  | .others queue => { d with queue }

def conclude (d : Drain) : Ending → Drain
  | .ended => d.finish .outputClosed
  | .failed message => (d.fault message).finish .outputClosed
  | .stopped => d.finish .cancelled

/-- A drain that starts on a queue, takes some turns and comes to an end. -/
def course (marker : List Char) (queue : ValueQueue) (turns : List Turn) (ending : Ending) : Drain :=
  (turns.foldl (turn marker) (start queue)).conclude ending

theorem Matches.turn (matched : Matches d d') {turn turn' : Turn} (alike : turn.Alike marker turn') :
    Matches (d.turn marker turn) (d'.turn marker turn') := by
  cases alike with
  | line same => exact matched.line same
  | others closed => exact ⟨matched.stats, closed, matched.told⟩

theorem Matches.turns (matched : Matches d d') {turns turns' : List Turn}
    (alike : List.Forall₂ (Turn.Alike marker) turns turns') :
    Matches (turns.foldl (Drain.turn marker) d) (turns'.foldl (Drain.turn marker) d') := by
  induction alike generalizing d d' with
  | nil => exact matched
  | cons first _ ih => exact ih (matched.turn first)

theorem Matches.conclude (matched : Matches d d') (ending : Ending) :
    Matches (d.conclude ending) (d'.conclude ending) := by
  cases ending with
  | ended => exact matched.finish .outputClosed
  | failed message => exact (matched.fault message).finish .outputClosed
  | stopped => exact matched.finish .cancelled

theorem course_matches {queue queue' : ValueQueue} (closed : queue.closed = queue'.closed) {turns turns' : List Turn}
    (alike : List.Forall₂ (Turn.Alike marker) turns turns') (ending : Ending) :
    Matches (course marker queue turns ending) (course marker queue' turns' ending) := by
  have begun : Matches (start queue) (start queue') := ⟨rfl, closed, rfl⟩
  exact (begun.turns alike).conclude ending

end Drain

def endingOf (events : List Event) : Drain.Ending :=
  match failure? events with
  | none => .ended
  | some message => .failed message

theorem drain_eq_course (marker : List Char) (capacity : Nat) (events : List Event) (queue : ValueQueue) :
    drain marker capacity events queue =
      Drain.course marker queue ((streamLines events).map .line) (endingOf events) := by
  obtain ⟨more, reads⟩ := lineReads_eq capacity events
  have lines : ((streamLines events).map Drain.Turn.line).foldl (Drain.turn marker) (Drain.start queue) =
      (Drain.start queue).lines marker (streamLines events) := List.foldl_map
  rw [drain, reads, Drain.run_lines, Drain.course, lines, endingOf]
  cases failure? events with
  | none => rfl
  | some message => rfl

theorem turns_alike {marker : List Char} {lines lines' : List Bytes}
    (same : List.Forall₂ (SameKind marker) lines lines') :
    List.Forall₂ (Drain.Turn.Alike marker) (lines.map .line) (lines'.map .line) := by
  rw [List.forall₂_map_left_iff, List.forall₂_map_right_iff]
  exact same.imp fun _ _ first => .line first

/-! ### Drains that are fed -/

theorem Drain.Matches.size {marker : List Char} {d d' : Drain} (matched : Matches d d')
    (size : d.queue.size = d'.queue.size) {bytes bytes' : Bytes} (same : SameKind marker bytes bytes') :
    (d.line marker bytes).queue.size = (d'.line marker bytes').queue.size := by
  obtain ⟨stats, ⟨items, closed⟩, notes⟩ := d
  obtain ⟨stats', ⟨items', closed'⟩, notes'⟩ := d'
  obtain ⟨rfl, rfl, told⟩ := matched
  unfold Drain.line
  dsimp only at size ⊢
  generalize kind : classify marker (lineText bytes) = k
  generalize kind' : classify marker (lineText bytes') = k'
  have alike : k.Alike k' := by
    rw [← kind, ← kind']
    exact same
  cases alike with
  | value v v' =>
    cases closed with
    | none =>
      have more : items.length + 1 = items'.length + 1 := congrArg (· + 1) size
      simpa [ValueQueue.push, ValueQueue.size] using more
    | some reason => exact size
  | malformed | untagged => exact size

namespace Feed

variable {marker : List Char} {f f' : Feed}

section
variable (marker : List Char) (f : Feed)

def cut : Feed :=
  { f with pending := [], ended := false }

/-- The drain after some whole lines, and after the end of the output if there is nothing to come. -/
def reads (lines : List Bytes) (ended : Bool) : Feed :=
  let f := lines.foldl (line marker) f
  if ended then f.eof marker else f

theorem line_cut (bytes : Bytes) : f.cut.line marker bytes = (f.line marker bytes).cut := by
  obtain ⟨drain, pending, stopping, ended, finished⟩ := f
  unfold line
  dsimp only [cut]
  generalize drain.line marker bytes = drain
  cases stopping <;> rfl

theorem line_pending (bytes : Bytes) : (f.line marker bytes).pending = [] := by
  unfold line
  dsimp only
  split <;> rfl

theorem lines_pending (between : f.pending = []) (lines : List Bytes) :
    (lines.foldl (line marker) f).pending = [] := by
  induction lines generalizing f with
  | nil => exact between
  | cons bytes lines ih => exact ih _ (f.line_pending marker bytes)

theorem bytes_cut (bytes : Bytes) :
    ∃ lines, (f.bytes marker bytes).1.cut = (f.cut.reads marker lines false).cut := by
  have fed (f : Feed) :
      ∃ lines, (bytes.foldl (byte marker) f).cut = (List.foldl (line marker) f.cut lines).cut := by
    induction bytes generalizing f with
    | nil => exact ⟨[], rfl⟩
    | cons b bytes ih =>
      obtain ⟨lines, rest⟩ := ih (f.byte marker b)
      rw [List.foldl_cons, rest]
      unfold byte
      split
      · exact ⟨lines, rfl⟩
      · split
        · rw [← line_cut]
          exact ⟨_ :: lines, rfl⟩
        · exact ⟨lines, rfl⟩
  unfold Feed.bytes
  split
  · exact ⟨[], rfl⟩
  · exact fed f

theorem eof_cut : ∃ lines, (f.eof marker).cut = (f.cut.reads marker lines true).cut := by
  obtain ⟨drain, pending, stopping, ended, finished⟩ := f
  cases finished with
  | true => exact ⟨[], rfl⟩
  | false =>
    cases pending with
    | nil => exact ⟨[], rfl⟩
    | cons b pending =>
      -- the piece of a line that there is counts as one
      refine ⟨[(b :: pending).reverse], ?_⟩
      cases stopping <;> rfl

theorem shutdown_cut : f.cut.shutdown.cut = f.shutdown.cut := by
  have kept : f.cut.drain = f.drain := rfl
  unfold shutdown
  dsimp only
  rw [kept]
  split <;> rfl

end

/-- Two drains that a log without content does not tell apart, now or later. -/
structure Alike (f f' : Feed) : Prop where
  drain : f.drain.Matches f'.drain
  size : f.drain.queue.size = f'.drain.queue.size
  pending : f.pending = f'.pending
  stopping : f.stopping = f'.stopping
  finished : f.finished = f'.finished

theorem finish_size (d : Drain) (reason : CloseReason) : (d.finish reason).queue.size = d.queue.size := by
  obtain ⟨stats, ⟨items, closed⟩, notes⟩ := d
  cases closed <;> rfl

namespace Alike

theorem finish (alike : f.Alike f') (reason : CloseReason) : (f.finish reason).Alike (f'.finish reason) := by
  refine ⟨alike.drain.finish reason, ?_, alike.pending, alike.stopping, rfl⟩
  exact (finish_size f.drain reason).trans (alike.size.trans (finish_size f'.drain reason).symm)

theorem line (alike : f.Alike f') {bytes bytes' : Bytes} (same : SameKind marker bytes bytes') :
    (f.line marker bytes).Alike (f'.line marker bytes') := by
  have matched := alike.drain.line same
  have size := alike.drain.size alike.size same
  have dealt : Alike { f with drain := f.drain.line marker bytes, pending := [] }
      { f' with drain := f'.drain.line marker bytes', pending := [] } :=
    ⟨matched, size, rfl, alike.stopping, alike.finished⟩
  unfold Feed.line
  dsimp only
  by_cases stops : f.stopping
  · rw [if_pos stops, if_pos (alike.stopping ▸ stops)]
    exact dealt.finish .cancelled
  · rw [if_neg stops, if_neg (alike.stopping ▸ stops)]
    exact dealt

theorem lines (alike : f.Alike f') {lines lines' : List Bytes}
    (same : List.Forall₂ (SameKind marker) lines lines') :
    (lines.foldl (Feed.line marker) f).Alike (lines'.foldl (Feed.line marker) f') := by
  induction same generalizing f f' with
  | nil => exact alike
  | cons first _ ih => exact ih (alike.line first)

theorem eof (alike : f.Alike f') (between : f.pending = []) : (f.eof marker).Alike (f'.eof marker) := by
  have ended : Alike { f with ended := true } { f' with ended := true } :=
    ⟨alike.drain, alike.size, alike.pending, alike.stopping, alike.finished⟩
  have between' : f'.pending = [] := alike.pending.symm.trans between
  unfold Feed.eof
  dsimp only
  by_cases done : f.finished
  · rw [if_pos done, if_pos (alike.finished ▸ done)]
    exact ended
  · rw [if_neg done, if_neg (alike.finished ▸ done)]
    simp only [between, between']
    have whole := ended.finish .outputClosed
    rw [between, between'] at whole
    exact whole

theorem reads (alike : f.Alike f') (between : f.pending = []) {lines lines' : List Bytes}
    (same : List.Forall₂ (SameKind marker) lines lines') (ended : Bool) :
    (f.reads marker lines ended).Alike (f'.reads marker lines' ended) := by
  cases ended with
  | false => exact alike.lines same
  | true => exact (alike.lines same).eof (lines_pending marker f between lines)

theorem shutdown (alike : f.Alike f') : f.shutdown.Alike f'.shutdown := by
  obtain ⟨⟨stats, ⟨items, closed⟩, notes⟩, pending, stopping, ended, finished⟩ := f
  obtain ⟨⟨stats', ⟨items', closed'⟩, notes'⟩, pending', stopping', ended', finished'⟩ := f'
  obtain ⟨⟨rfl, rfl, told⟩, size, rfl, -, rfl⟩ := alike
  cases closed with
  | none => exact ⟨⟨rfl, rfl, congrArg (List.cons _) told⟩, size, rfl, rfl, rfl⟩
  | some reason => exact ⟨⟨rfl, rfl, told⟩, size, rfl, rfl, rfl⟩

theorem detach (alike : f.Alike f') : f.detach.Alike f'.detach :=
  ⟨⟨alike.drain.stats, alike.drain.closed, congrArg (List.cons _) alike.drain.told⟩, alike.size,
    alike.pending, alike.stopping, alike.finished⟩

end Alike

end Feed

/-! ### Diagnostics -/

namespace Diagnostics

def after (d : Diagnostics) (lines : List Bytes) : Diagnostics :=
  lines.foldl line d

theorem line_told (d : Diagnostics) (bytes : Bytes) :
    Level.events.messages (d.line bytes).notes = Level.events.messages d.notes := by
  unfold line
  dsimp only
  split <;> rfl

theorem after_told (d : Diagnostics) (lines : List Bytes) :
    Level.events.messages (d.after lines).notes = Level.events.messages d.notes := by
  induction lines generalizing d with
  | nil => rfl
  | cons bytes lines ih => exact (ih (d.line bytes)).trans (d.line_told bytes)

theorem after_lines (d : Diagnostics) (lines : List Bytes) : (d.after lines).lines = d.lines + lines.length := by
  induction lines generalizing d with
  | nil => rfl
  | cons bytes lines ih =>
    have counted : (d.line bytes).lines = d.lines + 1 := rfl
    have rest : (d.after (bytes :: lines)).lines = (d.line bytes).lines + lines.length := ih (d.line bytes)
    rw [rest, counted, List.length_cons]
    omega

theorem run_after (d : Diagnostics) (lines : List Bytes) (rest : List LineRead) :
    d.run (lines.map .line ++ rest) = (d.after lines).run rest := by
  induction lines generalizing d with
  | nil => rfl
  | cons bytes lines ih => exact ih (d.line bytes)

/-- Diagnostics after some whole lines, and after their end if there is nothing to come. -/
def reads (d : Diagnostics) (lines : List Bytes) (ended : Bool) : Diagnostics :=
  if ended then (d.after lines).finish else d.after lines

theorem reads_lines (d : Diagnostics) (lines : List Bytes) (ended : Bool) :
    (d.reads lines ended).lines = d.lines + lines.length := by
  cases ended <;> exact d.after_lines lines

/-- Only the number of lines is told. -/
theorem reads_told (d : Diagnostics) {lines lines' : List Bytes} (length : lines.length = lines'.length)
    (ended : Bool) : Level.events.messages (d.reads lines ended).notes =
      Level.events.messages (d.reads lines' ended).notes := by
  have told := (d.after_told lines).trans (d.after_told lines').symm
  cases ended with
  | false => exact told
  | true =>
    have count : (d.after lines).lines = (d.after lines').lines := by
      rw [after_lines, after_lines, length]
    rw [reads, reads, if_pos rfl, if_pos rfl, finish, finish, messages_event, messages_event, count, told]

end Diagnostics

theorem diagnostics_eq (capacity : Nat) (events : List Event) :
    diagnostics capacity events = (Diagnostics.start.after (streamLines events)).finish := by
  obtain ⟨more, reads⟩ := lineReads_eq capacity events
  rw [diagnostics, reads, Diagnostics.run_after]
  cases failure? events with
  | none => rfl
  | some message => rfl

/-- Of diagnostics only the number of lines is told. -/
theorem diagnostics_told (capacity : Nat) (events : List Event) :
    Level.events.messages (diagnostics capacity events).notes =
      ["Engine stderr closed after " ++ Text.decimalNat (streamLines events).length ++ " lines"] := by
  have count : (Diagnostics.start.after (streamLines events)).lines = (streamLines events).length := by
    rw [Diagnostics.after_lines]
    exact Nat.zero_add _
  rw [diagnostics_eq, Diagnostics.finish, messages_event, count, Diagnostics.after_told]
  rfl

end PartyBridge.EngineOutput
