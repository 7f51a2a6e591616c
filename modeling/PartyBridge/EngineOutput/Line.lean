import PartyBridge.Text.Blank
import PartyBridge.Text.Integer
import PartyBridge.Text.Utf8

/-!
# Lines of the engine

A line that holds the marker is tagged and carries its value in its second word, wherever the marker
stands.
-/

namespace PartyBridge.EngineOutput

inductive LineKind where
  | value (v : Int64)
  | malformed
  | untagged
deriving Repr, DecidableEq

/-- The kind of a line, without its line end. -/
def classify (marker line : List Char) : LineKind :=
  if Text.occurs marker line then
    match (Text.words line)[1]? with
    | none => .malformed
    | some word =>
      match Text.readInt64? word with
      | some v => .value v
      | none => .malformed
  else .untagged

/-- The text of a line as read from the engine: decoded lossily, without its line end. -/
def lineText (bytes : Bytes) : List Char :=
  Text.chomp (Utf8.decodeLossy bytes).toList

end PartyBridge.EngineOutput
