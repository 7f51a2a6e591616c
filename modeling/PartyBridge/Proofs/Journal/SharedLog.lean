import Mathlib.Logic.Function.Basic
import PartyBridge.Proofs.Journal.LogFile
import PartyBridge.Proofs.Run

/-!
# A log file with several writers

Several writers may have the same log file open. As long as each of them finds the end of the file where its handle
writes, the file holds whole lines. A writer that has started the file afresh goes on at its own offset, and the first
line that it does not write at the end of the file damages the file, until it is started afresh (`shared_log_whole`).
-/

namespace PartyBridge

namespace ByteStream

theorem size_zeroBytes (n : Nat) : (zeroBytes n).size = n :=
  Array.size_replicate

/-- Bytes that are written over others, or behind a gap, do not add up. -/
theorem size_overwrite_eq_iff {bytes piece : ByteArray} {offset : Nat} :
    (overwrite bytes offset piece).size = bytes.size + piece.size ↔ offset = bytes.size ∨ piece = .empty := by
  have filled : piece.isEmpty = false ↔ 0 < piece.size := by
    simp [ByteArray.isEmpty, Nat.pos_iff_ne_zero]
  unfold overwrite
  rw [← ByteArray.size_eq_zero_iff]
  split
  · rename_i empty
    have none : piece.size = 0 := by simpa [ByteArray.isEmpty] using empty
    simp [none]
  · rename_i some
    have positive := filled.mp (by simpa using some)
    split
    · rename_i here
      simp [here]
    · split
      · simp only [ByteArray.size_append, size_zeroBytes]
        omega
      · simp only [ByteArray.size_append, ByteArray.size_extract]
        omega

end ByteStream

namespace Journal

theorem Handle.size_write_eq_iff {handle : Handle} {file piece : ByteArray} :
    (handle.write file piece).1.size = file.size + piece.size ↔ handle.endsAt file.size ∨ piece = .empty := by
  cases handle with
  | atEnd => simp [write, endsAt]
  | atOffset offset => simpa [write, endsAt] using ByteStream.size_overwrite_eq_iff

/-- Only what is written at the end of a file is added to it. -/
theorem Handle.write_eq_append_iff {handle : Handle} {file piece : ByteArray} :
    (handle.write file piece).1 = file ++ piece ↔ handle.endsAt file.size ∨ piece = .empty := by
  refine ⟨fun appends => ?_, ?_⟩
  · rw [← Handle.size_write_eq_iff, appends, ByteArray.size_append]
  · rintro (ends | rfl)
    · exact (Handle.write_end ends piece).1
    · cases handle with
      | atEnd => rfl
      | atOffset offset => exact ByteArray.append_empty.symm

/-! ### Writers side by side -/

/-- A log file that several writers have open. A writer that has made room for a line writes it later. -/
structure SharedLog (ι : Type) where
  file : ByteArray
  writer : ι → LogWriter
  pending : ι → Option ByteArray

/-- What becomes of a shared log file: a writer starts it afresh, or writes a line through its handle. -/
inductive LogEvent (ι : Type) where
  | cleared (who : ι)
  | wrote (who : ι) (handle : Handle) (size : Nat) (line : ByteArray)

namespace LogEvent
variable {ι : Type}

def doer : LogEvent ι → ι
  | .cleared who | .wrote who .. => who

def isCleared : LogEvent ι → Bool
  | .cleared _ => true
  | .wrote .. => false

/-- Whether a line is written at the end of the file, or has nothing in it. -/
def InPlace : LogEvent ι → Prop
  | .cleared _ => True
  | .wrote _ handle size line => handle.endsAt size ∨ line = .empty

instance (e : LogEvent ι) : Decidable e.InPlace :=
  match e with
  | .cleared _ => .isTrue trivial
  | .wrote _ handle size line => inferInstanceAs (Decidable (handle.endsAt size ∨ line = .empty))

def line? : LogEvent ι → Option ByteArray
  | .cleared _ => none
  | .wrote _ _ _ line => some line

def sinceCleared (h : List (LogEvent ι)) : List (LogEvent ι) :=
  h.foldl (fun events e => if e.isCleared then [] else events ++ [e]) []

theorem sinceCleared_concat (h : List (LogEvent ι)) (e : LogEvent ι) :
    sinceCleared (h ++ [e]) = if e.isCleared then [] else sinceCleared h ++ [e] :=
  List.foldl_append

/-- The lines written since the file was last started afresh. -/
def linesSince (h : List (LogEvent ι)) : List ByteArray :=
  (sinceCleared h).filterMap line?

/-- What stands in front of those lines: what was there at first, or nothing. -/
def base (initial : ByteArray) (h : List (LogEvent ι)) : ByteArray :=
  if h.any isCleared then .empty else initial

end LogEvent

open LogEvent

/-- A file that holds what it held at first, or nothing, and behind it every line since, whole and in order. -/
def Whole {ι : Type} (initial : ByteArray) (h : List (LogEvent ι)) (file : ByteArray) : Prop :=
  file = base initial h ++ joined (linesSince h)

instance {ι : Type} (initial : ByteArray) (h : List (LogEvent ι)) (file : ByteArray) :
    Decidable (Whole initial h file) :=
  inferInstanceAs (Decidable (file = _))

section Whole
variable {ι : Type} {initial file : ByteArray} {h : List (LogEvent ι)}

theorem whole_cleared (who : ι) : Whole initial (h ++ [.cleared who]) .empty := by
  simp [Whole, base, linesSince, sinceCleared_concat, isCleared, joined_nil]

theorem whole_wrote_iff (whole : Whole initial h file) {who : ι} {handle : Handle} {line : ByteArray} :
    Whole initial (h ++ [.wrote who handle file.size line]) (handle.write file line).1 ↔
      (LogEvent.wrote who handle file.size line).InPlace := by
  have same : base initial (h ++ [.wrote who handle file.size line]) = base initial h := by
    simp [base, isCleared]
  have longer : linesSince (h ++ [.wrote who handle file.size line]) = linesSince h ++ [line] := by
    simp [linesSince, sinceCleared_concat, isCleared, line?]
  rw [Whole, same, longer, joined_concat, ← ByteArray.append_assoc, ← whole]
  exact Handle.write_eq_append_iff

end Whole

namespace SharedLog
variable {ι : Type} {s t : SharedLog ι} {h : List (LogEvent ι)} {who : ι}

/-- A writer that does not append has started the file afresh, and is at its end until someone else acts. -/
def Placed (s : SharedLog ι) (h : List (LogEvent ι)) : Prop :=
  ∀ who, (s.writer who).handle ≠ .atEnd →
    ∃ before after, h = before ++ .cleared who :: after ∧
      ((∀ e ∈ after, e.doer = who) → (s.writer who).handle.endsAt s.file.size)

/-- Whatever a writer does, the others stay placed. -/
theorem Placed.others (placed : Placed s h) {e : LogEvent ι} (other : who ≠ e.doer) (same : t.writer who = s.writer who)
    (moved : (t.writer who).handle ≠ .atEnd) :
    ∃ before after, h ++ [e] = before ++ .cleared who :: after ∧
      ((∀ e ∈ after, e.doer = who) → (t.writer who).handle.endsAt t.file.size) := by
  rw [same] at moved
  obtain ⟨before, after, rfl, -⟩ := placed who moved
  refine ⟨before, after ++ [e], by simp, fun alone => ?_⟩
  exact absurd (alone e (by simp)).symm other

variable [DecidableEq ι] {initial line : ByteArray}

/-- A log that everyone has opened. The first to open it settles what the others find. -/
def opened (w : LogWriter) (file : ByteArray) : SharedLog ι :=
  ⟨file, fun _ => w, fun _ => none⟩

def makeRoom (s : SharedLog ι) (who : ι) (line : ByteArray) : SharedLog ι :=
  let made := (s.writer who).makeRoom s.file line.size
  ⟨made.2, Function.update s.writer who made.1, Function.update s.pending who (some line)⟩

def put (s : SharedLog ι) (who : ι) (line : ByteArray) : SharedLog ι :=
  let written := (s.writer who).put s.file line
  ⟨written.2, Function.update s.writer who written.1, Function.update s.pending who none⟩

/-- The writers take turns in any order. Each half of writing a line is one step. -/
inductive Step : SharedLog ι → Option (LogEvent ι) → SharedLog ι → Prop where
  | clear {s : SharedLog ι} {who : ι} {line : ByteArray} (idle : s.pending who = none)
      (full : (s.writer who).overflows line.size) : Step s (some (.cleared who)) (s.makeRoom who line)
  | keep {s : SharedLog ι} {who : ι} {line : ByteArray} (idle : s.pending who = none)
      (fits : (s.writer who).overflows line.size = false) : Step s none (s.makeRoom who line)
  | put {s : SharedLog ι} {who : ι} {line : ByteArray} (begun : s.pending who = some line) :
      Step s (some (.wrote who (s.writer who).handle s.file.size line)) (s.put who line)

theorem makeRoom_full (full : (s.writer who).overflows line.size) :
    s.makeRoom who line =
      ⟨.empty, Function.update s.writer who ⟨.atOffset 0, (s.writer who).cap, 0⟩,
        Function.update s.pending who (some line)⟩ := by
  simp [SharedLog.makeRoom, LogWriter.makeRoom, full]

theorem makeRoom_fits (fits : (s.writer who).overflows line.size = false) :
    s.makeRoom who line = { s with pending := Function.update s.pending who (some line) } := by
  simp [SharedLog.makeRoom, LogWriter.makeRoom, fits]

/-! ### Whole files -/

/-- The next event leaves a whole file whole exactly if it happens in place. -/
theorem Step.whole_iff {e : LogEvent ι} (step : Step s (some e) t) (whole : Whole initial h s.file) :
    Whole initial (h ++ [e]) t.file ↔ e.InPlace := by
  cases step with
  | clear idle full =>
    rw [makeRoom_full full]
    exact iff_of_true (whole_cleared _) trivial
  | put begun => exact whole_wrote_iff whole

/-- Starting afresh makes up for all that went wrong before. -/
theorem run_whole (start : Whole initial ([] : List (LogEvent ι)) s.file) (run : Run Step s h t)
    (inPlace : ∀ e ∈ sinceCleared h, e.InPlace) : Whole initial h t.file := by
  induction run with
  | refl => exact start
  | @tail h e t u _ step ih =>
    cases step with
    | clear idle full =>
      -- The induction hypothesis is not needed: it may not even apply, if lines were torn before.
      rw [makeRoom_full full]
      exact whole_cleared _
    | keep idle fits =>
      rw [Option.toList_none, List.append_nil] at inPlace ⊢
      rw [makeRoom_fits fits]
      exact ih inPlace
    | @put who line begun =>
      rw [Option.toList_some, sinceCleared_concat] at inPlace
      have earlier := ih fun e member => inPlace e (List.mem_append_left _ member)
      exact (whole_wrote_iff earlier).mpr (inPlace _ (List.mem_append_right _ (List.mem_singleton.mpr rfl)))

/-! ### Who does the damage -/

theorem Step.placed {e : Option (LogEvent ι)} (step : Step s e t) (placed : Placed s h) :
    Placed t (h ++ e.toList) := by
  cases step with
  | @clear doer line idle full =>
    intro who moved
    by_cases same : who = doer
    · refine ⟨h, [], by rw [same]; rfl, fun _ => ?_⟩
      rw [makeRoom_full full, same]
      simp [Handle.endsAt]
    · exact placed.others same (Function.update_of_ne same ..) moved
  | keep idle fits =>
    rw [makeRoom_fits fits, Option.toList_none, List.append_nil]
    exact placed
  | @put doer line begun =>
    intro who moved
    by_cases same : who = doer
    · subst same
      have earlier : (s.writer who).handle ≠ .atEnd := by
        intro atEnd
        apply moved
        simp [SharedLog.put, LogWriter.put, Handle.write, atEnd]
      obtain ⟨before, after, rfl, ends⟩ := placed who earlier
      -- If all that followed was its own doing, it was at the end before this line, and so it is behind it.
      refine ⟨before, after ++ [_], by simp; rfl, fun alone => ?_⟩
      obtain ⟨wrote, stays⟩ := Handle.write_end (ends fun e member => alone e (List.mem_append_left _ member)) line
      rw [← wrote] at stays
      simpa [SharedLog.put, LogWriter.put] using stays
    · exact placed.others same (Function.update_of_ne same ..) moved

theorem run_placed (start : Placed s []) (run : Run Step s h t) : Placed t h := by
  induction run with
  | refl => exact start
  | tail _ step ih => exact step.placed ih

/-- Whoever writes elsewhere has started the file afresh, and someone else has acted since. -/
theorem Step.displaced {e : LogEvent ι} (step : Step s (some e) t) (placed : Placed s h) (outOfPlace : ¬ e.InPlace) :
    ∃ before after, h = before ++ .cleared e.doer :: after ∧ ∃ e' ∈ after, e'.doer ≠ e.doer := by
  cases step with
  | clear => exact absurd trivial outOfPlace
  | @put who line begun =>
    have elsewhere : ¬ (s.writer who).handle.endsAt s.file.size := fun ends => outOfPlace (.inl ends)
    have moved : (s.writer who).handle ≠ .atEnd := fun atEnd => elsewhere (by rw [atEnd]; rfl)
    obtain ⟨before, after, cleared, ends⟩ := placed who moved
    refine ⟨before, after, cleared, ?_⟩
    by_contra alone
    refine elsewhere (ends fun e member => ?_)
    by_contra other
    exact alone ⟨e, member, other⟩

/-! ### Turns -/

def writeLine (s : SharedLog ι) (who : ι) (line : ByteArray) : SharedLog ι :=
  let written := (s.writer who).writeLine s.file line
  ⟨written.2, Function.update s.writer who written.1, Function.update s.pending who none⟩

theorem put_makeRoom (s : SharedLog ι) (who : ι) (line : ByteArray) :
    (s.makeRoom who line).put who line = s.writeLine who line := by
  simp [SharedLog.put, SharedLog.makeRoom, SharedLog.writeLine, LogWriter.writeLine_eq]

/-- What becomes of the file meanwhile. -/
def lineEvents (s : SharedLog ι) (who : ι) (line : ByteArray) : List (LogEvent ι) :=
  let made := s.makeRoom who line
  (if (s.writer who).overflows line.size then [.cleared who] else []) ++
    [.wrote who (made.writer who).handle made.file.size line]

/-- The writers write whole lines in turns: the log after them, and what became of the file. -/
def turns (s : SharedLog ι) (lines : List (ι × ByteArray)) : SharedLog ι × List (LogEvent ι) :=
  lines.foldl (fun now line => (now.1.writeLine line.1 line.2, now.2 ++ now.1.lineEvents line.1 line.2)) (s, [])

theorem run_line (run : Run Step s h t) (idle : t.pending who = none) :
    Run Step s (h ++ t.lineEvents who line) (t.writeLine who line) := by
  have begun : (t.makeRoom who line).pending who = some line := by simp [SharedLog.makeRoom]
  rw [← put_makeRoom]
  by_cases full : (t.writer who).overflows line.size
  · have cleared := run.event (Step.clear idle full)
    simpa [lineEvents, full] using cleared.event (Step.put begun)
  · have kept := run.quiet (Step.keep idle (by simpa using full))
    simpa [lineEvents, full] using kept.event (Step.put begun)

theorem run_turns (idle : ∀ who, s.pending who = none) (lines : List (ι × ByteArray)) :
    Run Step s (s.turns lines).2 (s.turns lines).1 ∧ ∀ who, (s.turns lines).1.pending who = none := by
  induction lines using List.reverseRecOn with
  | nil => exact ⟨.refl, idle⟩
  | append_singleton lines line ih =>
    obtain ⟨run, idle⟩ := ih
    have last : s.turns (lines ++ [line]) =
        ((s.turns lines).1.writeLine line.1 line.2,
          (s.turns lines).2 ++ (s.turns lines).1.lineEvents line.1 line.2) := List.foldl_append
    rw [last]
    refine ⟨run_line run (idle line.1), fun who => ?_⟩
    by_cases same : who = line.1
    · simp [SharedLog.writeLine, same]
    · simpa [SharedLog.writeLine, Function.update_of_ne same] using idle who

end SharedLog

/-- Whoever opens a log file after it has been opened finds it as it is. -/
theorem LogWriter.open_again {cap : Nat} {place : Place} {w : LogWriter} {file : ByteArray}
    (opened : LogWriter.open cap place = some (w, file)) : LogWriter.open cap (.file file) = some (w, file) := by
  have openable : place ≠ .directory := by
    rintro rfl
    cases opened
  rw [LogWriter.open_eq cap openable] at opened
  cases opened
  split
  · simp [LogWriter.open]
  · rename_i small
    simp [LogWriter.open, small]

/-- A log file that several writers have open, who write their lines in steps of any order. It is whole as long as
every line since it was last started afresh is written at its end, and no longer. Only who has started the file afresh
writes elsewhere, after someone else has written to the file or started it afresh. -/
theorem shared_log_whole {ι : Type} [DecidableEq ι] {cap : Nat} {place : Place} {w : LogWriter} {initial : ByteArray}
    (opened : LogWriter.open cap place = some (w, initial)) {h : List (LogEvent ι)} {s : SharedLog ι}
    (run : Run SharedLog.Step (.opened w initial) h s) :
    LogWriter.open cap (.file initial) = some (w, initial) ∧
    ((∀ e ∈ sinceCleared h, e.InPlace) → Whole initial h s.file ∧
      ∀ e t, SharedLog.Step s (some e) t → (Whole initial (h ++ [e]) t.file ↔ e.InPlace)) ∧
    ∀ early e late, h = early ++ e :: late → ¬ e.InPlace →
      ∃ before after, early = before ++ .cleared e.doer :: after ∧ ∃ e' ∈ after, e'.doer ≠ e.doer := by
  have again := LogWriter.open_again opened
  have appends : w.handle = .atEnd := by
    have openable : Place.file initial ≠ .directory := nofun
    rw [LogWriter.open_eq cap openable] at again
    exact congrArg LogWriter.handle (Prod.mk.inj (Option.some.inj again)).1.symm
  refine ⟨again, fun inPlace => ?_, ?_⟩
  · have start : Whole initial ([] : List (LogEvent ι)) initial := ByteArray.append_empty.symm
    have whole : Whole initial h s.file := SharedLog.run_whole start run inPlace
    exact ⟨whole, fun e t step => step.whole_iff whole⟩
  · rintro early e late rfl outOfPlace
    have start : SharedLog.Placed (.opened w initial : SharedLog ι) [] := fun _ moved => absurd appends moved
    obtain ⟨_, _, past, step, -⟩ := run.split
    exact step.displaced (SharedLog.run_placed start past) outOfPlace

/-- Two writers that share a log with room for eight bytes. -/
def pairLog : SharedLog Bool :=
  .opened ⟨.atEnd, 8, 0⟩ .empty

/-- The second line makes its writer start the file afresh, the other one appends a line to it, and then the first one
goes on at its own offset. -/
def tornTurns : List (Bool × ByteArray) :=
  [(false, "first\n".toUTF8), (false, "again\n".toUTF8), (true, "more\n".toUTF8), (false, "x\n".toUTF8)]

/-- Both lines of the other writer that follow are whole, as the file has started afresh before them. -/
theorem shared_log_whole_healed :
    let now := pairLog.turns (tornTurns ++ [(true, "fresh\n".toUTF8), (true, "y\n".toUTF8)])
    LogWriter.open 8 .missing = some (⟨.atEnd, 8, 0⟩, .empty) ∧ Run SharedLog.Step pairLog now.2 now.1 ∧
    (∀ e ∈ sinceCleared now.2, e.InPlace) ∧ (∃ e ∈ now.2, ¬ e.InPlace) ∧ now.1.file = "fresh\ny\n".toUTF8 := by
  intro now
  have opened : LogWriter.open 8 .missing = some (⟨.atEnd, 8, 0⟩, .empty) := rfl
  have run : Run SharedLog.Step pairLog now.2 now.1 := (SharedLog.run_turns (fun _ => rfl) _).1
  have inPlace : ∀ e ∈ sinceCleared now.2, e.InPlace := by decide +kernel
  refine ⟨opened, run, inPlace, by decide +kernel, ?_⟩
  have whole := ((shared_log_whole opened run).2.1 inPlace).1
  exact whole.trans (by decide +kernel)

/-- Two lines follow the one that started the file afresh, and the second tears the first. -/
theorem line_torn_at_offset :
    let now := pairLog.turns tornTurns
    LogWriter.open 8 .missing = some (⟨.atEnd, 8, 0⟩, .empty) ∧ Run SharedLog.Step pairLog now.2 now.1 ∧
    linesSince now.2 = ["again\n".toUTF8, "more\n".toUTF8, "x\n".toUTF8] ∧
    now.1.file = "again\nx\nre\n".toUTF8 ∧ ¬ "more\n".toUTF8.toList <:+: now.1.file.toList ∧
    ¬ Whole .empty now.2 now.1.file := by
  intro now
  refine ⟨rfl, (SharedLog.run_turns (fun _ => rfl) _).1, ?_, ?_, ?_, ?_⟩
  · decide +kernel
  · decide +kernel
  · decide +kernel
  · decide +kernel

end Journal

end PartyBridge
