import PartyBridge.ValueQueue

/-!
# Failures of the bridge's calls
-/

namespace PartyBridge

inductive BridgeError where
  | inputClosed (label : String)
  | operator (source : String)
  | engineInput (source : String)
  | engineInputClosed
  | engineTerminated (reason : CloseReason)
  | receiveTimeout (nanos : Nat)
deriving Repr, DecidableEq

namespace BridgeError

def message : BridgeError → String
  | .inputClosed label => "operator input closed while reading '" ++ label ++ "'"
  | .operator source => "operator terminal I/O failed: " ++ source
  | .engineInput source => "failed to write to engine input: " ++ source
  | .engineInputClosed => "engine input is already closed"
  | .engineTerminated reason => "engine terminated before producing a value (" ++ reason.text ++ ")"
  | .receiveTimeout nanos =>
    "timed out after " ++ Text.durationText nanos ++ " waiting for an engine value"

/-- A failed call and what caused it, outermost first. -/
def chain : BridgeError → List String
  | .operator source => [message (.operator source), source]
  | .engineInput source => [message (.engineInput source), source]
  | e => [e.message]

def ofReceive : ReceiveError → BridgeError
  | .closed reason => .engineTerminated reason
  | .timedOut nanos => .receiveTimeout nanos

end BridgeError

end PartyBridge
