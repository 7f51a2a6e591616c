import Mathlib.Data.List.Induction
import PartyBridge.Journal.LogFile

/-!
# What a log file holds

A writer that has its file to itself always knows how long the file is, and the file holds the last lines, as many as
were written since it started afresh (`log_file_law`).
-/

namespace PartyBridge.Journal

def joined (lines : List ByteArray) : ByteArray :=
  lines.foldr (· ++ ·) .empty

theorem joined_nil : joined [] = .empty := rfl

theorem joined_concat (lines : List ByteArray) (line : ByteArray) :
    joined (lines ++ [line]) = joined lines ++ line := by
  induction lines with
  | nil => simp [joined]
  | cons first lines ih =>
    have step : ∀ rest, joined (first :: rest) = first ++ joined rest := fun _ => rfl
    rw [List.cons_append, step, step, ih, ByteArray.append_assoc]

theorem joined_singleton (line : ByteArray) : joined [line] = line :=
  ByteArray.append_empty

/-! ### Handles -/

/-- Whether the next bytes through a handle go to the end of a file of some size. -/
def Handle.endsAt (size : Nat) : Handle → Bool
  | .atEnd => true
  | .atOffset offset => offset = size

/-- A handle at the end of the file appends, and stays there. -/
theorem Handle.write_end {handle : Handle} {file : ByteArray} (ends : handle.endsAt file.size) (piece : ByteArray) :
    (handle.write file piece).1 = file ++ piece ∧ (handle.write file piece).2.endsAt (file ++ piece).size := by
  cases handle with
  | atEnd => exact ⟨rfl, rfl⟩
  | atOffset offset =>
    have here : offset = file.size := by simpa [endsAt] using ends
    refine ⟨?_, by simp [write, endsAt, here]⟩
    simp only [write, ByteStream.overwrite, here]
    split
    · rename_i empty
      have none : piece = .empty := ByteArray.size_eq_zero_iff.mp (by simpa [ByteArray.isEmpty] using empty)
      rw [none, ByteArray.append_empty]
    · rfl

/-! ### One writer -/

namespace LogWriter

/-- A writer that knows its file: it writes at the end, and has counted the bytes. -/
structure Tracks (w : LogWriter) (file : ByteArray) : Prop where
  ends : w.handle.endsAt file.size
  counted : w.written = file.size

variable {w : LogWriter} {file : ByteArray}

/-- The file starts afresh exactly if it would outgrow the cap. -/
theorem Tracks.makeRoom (tracks : w.Tracks file) (size : Nat) :
    w.makeRoom file size = if w.cap < file.size + size then (⟨.atOffset 0, w.cap, 0⟩, .empty) else (w, file) := by
  simp [LogWriter.makeRoom, overflows, tracks.counted]

theorem Tracks.put (tracks : w.Tracks file) (line : ByteArray) :
    (w.put file line).1.Tracks (w.put file line).2 ∧ (w.put file line).1.cap = w.cap ∧
    (w.put file line).2 = file ++ line := by
  obtain ⟨wrote, ends⟩ := Handle.write_end tracks.ends line
  have result : (w.put file line).2 = file ++ line := wrote
  have counted : (w.put file line).1.written = (file ++ line).size := by
    rw [ByteArray.size_append, ← tracks.counted]
    rfl
  rw [result]
  exact ⟨⟨ends, counted⟩, rfl, rfl⟩

theorem tracks_afresh (cap : Nat) : Tracks ⟨.atOffset 0, cap, 0⟩ .empty :=
  ⟨rfl, rfl⟩

theorem writeLine_eq (w : LogWriter) (file line : ByteArray) :
    w.writeLine file line = (w.makeRoom file line.size).1.put (w.makeRoom file line.size).2 line := rfl

theorem Tracks.writeLine (tracks : w.Tracks file) (line : ByteArray) :
    (w.writeLine file line).1.Tracks (w.writeLine file line).2 ∧ (w.writeLine file line).1.cap = w.cap ∧
    (w.writeLine file line).2 = if w.cap < file.size + line.size then line else file ++ line := by
  rw [writeLine_eq, tracks.makeRoom]
  split
  · have put := (tracks_afresh w.cap).put line
    rwa [ByteArray.empty_append] at put
  · exact tracks.put line

/-- A writer that opens a file knows it. -/
theorem open_eq (cap : Nat) {place : Place} (openable : place ≠ .directory) :
    let initial := if cap < place.bytes.size then .empty else place.bytes
    LogWriter.open cap place = some (⟨.atEnd, cap, initial.size⟩, initial) := by
  cases place with
  | missing => simp [LogWriter.open, Place.bytes]
  | directory => exact absurd rfl openable
  | file bytes =>
    by_cases large : cap < bytes.size
    · simp [LogWriter.open, Place.bytes, large]
    · simp [LogWriter.open, Place.bytes, large]

def writeLines (w : LogWriter) (file : ByteArray) (lines : List ByteArray) : LogWriter × ByteArray :=
  lines.foldl (fun now line => now.1.writeLine now.2 line) (w, file)

theorem writeLines_concat (w : LogWriter) (file : ByteArray) (lines : List ByteArray) (line : ByteArray) :
    w.writeLines file (lines ++ [line]) = (w.writeLines file lines).1.writeLine (w.writeLines file lines).2 line :=
  List.foldl_append

theorem Tracks.writeLines (tracks : w.Tracks file) (lines : List ByteArray) :
    (w.writeLines file lines).1.Tracks (w.writeLines file lines).2 ∧ (w.writeLines file lines).1.cap = w.cap := by
  induction lines using List.reverseRecOn with
  | nil => exact ⟨tracks, rfl⟩
  | append_singleton lines line ih =>
    obtain ⟨after, cap, -⟩ := ih.1.writeLine line
    rw [writeLines_concat]
    exact ⟨after, cap.trans ih.2⟩

/-- The file holds all lines behind what it held at first, or only the last ones. -/
theorem Tracks.writeLines_file (tracks : w.Tracks file) (lines : List ByteArray) :
    (w.writeLines file lines).2 = file ++ joined lines ∨
    ∃ dropped kept, lines = dropped ++ kept ∧ kept ≠ [] ∧ (w.writeLines file lines).2 = joined kept := by
  induction lines using List.reverseRecOn with
  | nil => exact .inl ByteArray.append_empty.symm
  | append_singleton lines line ih =>
    obtain ⟨-, -, wrote⟩ := (tracks.writeLines lines).1.writeLine line
    rw [writeLines_concat, wrote]
    split
    · exact .inr ⟨lines, [line], rfl, List.cons_ne_nil _ _, (joined_singleton line).symm⟩
    · rcases ih with all | ⟨dropped, kept, rfl, filled, last⟩
      · exact .inl (by rw [all, joined_concat, ByteArray.append_assoc])
      · refine .inr ⟨dropped, kept ++ [line], List.append_assoc .., by simp, ?_⟩
        rw [last, joined_concat]

end LogWriter

/-- A log file that one writer opens and writes to. A file over the cap is dropped at the opening. From then on the
writer knows the length of the file. A line goes behind what is there unless that would lead past the cap, and then the
file starts afresh with it. -/
theorem log_file_law (cap : Nat) {place : Place} (openable : place ≠ .directory) :
    ∃ w initial, LogWriter.open cap place = some (w, initial) ∧
      initial = (if cap < place.bytes.size then .empty else place.bytes) ∧
      ∀ lines : List ByteArray, let now := w.writeLines initial lines
        now.1.written = now.2.size ∧
        (now.2 = initial ++ joined lines ∨
          ∃ dropped kept, lines = dropped ++ kept ∧ kept ≠ [] ∧ now.2 = joined kept) ∧
        ∀ line : ByteArray, let next := w.writeLines initial (lines ++ [line])
          (now.1.makeRoom now.2 line.size).2 = (if cap < now.2.size + line.size then .empty else now.2) ∧
          next.2 = (now.1.makeRoom now.2 line.size).2 ++ line ∧
          next.2.size ≤ max cap line.size := by
  refine ⟨_, _, LogWriter.open_eq cap openable, rfl, ?_⟩
  generalize (if cap < place.bytes.size then ByteArray.empty else place.bytes) = initial
  have opened : LogWriter.Tracks ⟨.atEnd, cap, initial.size⟩ initial := ⟨rfl, rfl⟩
  intro lines now
  obtain ⟨tracks, sameCap⟩ := opened.writeLines lines
  refine ⟨tracks.counted, opened.writeLines_file lines, ?_⟩
  intro line next
  obtain ⟨-, -, wrote⟩ := tracks.writeLine line
  have room := tracks.makeRoom line.size
  rw [sameCap] at wrote room
  have made : (now.1.makeRoom now.2 line.size).2 = if cap < now.2.size + line.size then .empty else now.2 := by
    rw [room]
    split <;> rfl
  have written : next.2 = if cap < now.2.size + line.size then line else now.2 ++ line := by
    rw [← wrote, ← LogWriter.writeLines_concat]
  refine ⟨made, ?_, ?_⟩
  · rw [made, written]
    split
    · exact ByteArray.empty_append.symm
    · rfl
  · rw [written]
    split
    · exact Nat.le_max_right ..
    · rw [ByteArray.size_append]
      omega

/-- The first line leads past the cap of eight bytes, and the second one exactly up to it. -/
theorem log_file_law_brim :
    Place.file "old".toUTF8 ≠ .directory ∧
    ∃ w initial, LogWriter.open 8 (.file "old".toUTF8) = some (w, initial) ∧ initial = "old".toUTF8 ∧
      (w.writeLines initial ["lines\n".toUTF8, "or".toUTF8]).2 = "lines\nor".toUTF8 := by
  have openable : Place.file "old".toUTF8 ≠ .directory := nofun
  refine ⟨openable, ?_⟩
  obtain ⟨w, initial, opened, found, law⟩ := log_file_law 8 openable
  have kept : initial = "old".toUTF8 := found.trans (by decide +kernel)
  refine ⟨w, initial, opened, kept, ?_⟩
  have first : (w.writeLines initial ["lines\n".toUTF8]).2 = "lines\n".toUTF8 := by
    obtain ⟨room, wrote, -⟩ := (law []).2.2 "lines\n".toUTF8
    rw [room] at wrote
    have afresh : 8 < (w.writeLines initial []).2.size + "lines\n".toUTF8.size := by
      change 8 < initial.size + _
      rw [kept]
      decide +kernel
    rw [if_pos afresh] at wrote
    exact wrote.trans ByteArray.empty_append
  obtain ⟨room, wrote, -⟩ := (law ["lines\n".toUTF8]).2.2 "or".toUTF8
  rw [room, first] at wrote
  exact wrote.trans (by decide +kernel)

end PartyBridge.Journal
