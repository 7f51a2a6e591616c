import PartyBridge.Journal.Note
import PartyBridge.ByteStream.Source
import PartyBridge.Text.Blank
import PartyBridge.Text.Integer

/-!
# The engine's diagnostics

Lines on the engine's error output are counted, and those that are not blank are copied to the log.
-/

namespace PartyBridge.EngineOutput

open Journal ByteStream

structure Diagnostics where
  lines : Nat
  notes : List Note
deriving Repr, DecidableEq, Inhabited

namespace Diagnostics

def start : Diagnostics :=
  ⟨0, []⟩

/-- One line of diagnostics; blanks at its end are left out. -/
def line (d : Diagnostics) (bytes : Bytes) : Diagnostics :=
  let text := Text.trimEnd (Utf8.decodeLossy bytes).toList
  let notes :=
    if text.isEmpty then d.notes
    else content ("[engine stderr] " ++ String.ofList text) :: d.notes
  ⟨d.lines + 1, notes⟩

def finish (d : Diagnostics) : Diagnostics :=
  let closed := event ("Engine stderr closed after " ++ Text.decimalNat d.lines ++ " lines")
  { d with notes := closed :: d.notes }

/-- Takes the results of reading in order, up to the first failure. -/
def run (d : Diagnostics) : List LineRead → Diagnostics
  | .line bytes :: rest => (d.line bytes).run rest
  | _ => d.finish

end Diagnostics

def diagnostics (capacity : Nat) (events : List Event) : Diagnostics :=
  Diagnostics.start.run (lineReads capacity events)

end PartyBridge.EngineOutput
