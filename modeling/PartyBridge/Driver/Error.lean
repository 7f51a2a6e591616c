import PartyBridge.Bridge.Error
import PartyBridge.Text.Integer

/-!
# Failures of a driver
-/

namespace PartyBridge.Driver

/-- Why a driver failed. Paths are in the form in which they are shown. -/
inductive DriverError where
  | notFound (stem dir : String)
  | invalidCommand (text : String)
  | spawn (path source : String)
  | misused (text : String)
  | exited (path status : String)
  | bridge (e : BridgeError)
  | io (source : String)
deriving Repr, DecidableEq

namespace DriverError

def message : DriverError → String
  | .notFound stem dir => "no driver named " ++ stem ++ " in '" ++ dir ++ "'"
  | .invalidCommand text => "driver command is invalid: " ++ text
  | .spawn path source => "failed to start driver '" ++ path ++ "': " ++ source
  | .misused text => "driver protocol error: " ++ text
  | .exited path status => "driver '" ++ path ++ "' exited with " ++ status
  | .bridge e => e.message
  | .io source => "driver I/O failed: " ++ source

/-- A failure and what caused it, outermost first. A failed call of the bridge stands for itself. -/
def chain : DriverError → List String
  | .spawn path source => [message (.spawn path source), source]
  | .io source => [message (.io source), source]
  | .bridge e => e.chain
  | e => [e.message]

end DriverError

/-- The name of a party's driver, without extension. -/
def stem (party : Nat) : String :=
  "player_" ++ Text.decimalNat party

end PartyBridge.Driver
