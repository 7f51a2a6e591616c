import PartyBridge.Json.Value
import PartyBridge.Text.Utf8

/-!
# Replies to a driver

Every request is answered by one line of JSON: an object whose member `event` names the kind of
reply, followed by what it carries.
-/

namespace PartyBridge.Driver

/-- What a driver is told: the operator's answer, that its value went out, a value of the engine,
or that the request failed. -/
inductive Reply where
  | input (answer : String)
  | ack
  | value (v : Int64)
  | error (message : String)
deriving Repr, DecidableEq

def Reply.event : Reply → String
  | .input _ => "input"
  | .ack => "ack"
  | .value _ => "value"
  | .error _ => "error"

def Reply.payload : Reply → List (String × Json.Value)
  | .input answer => [("value", .str answer)]
  | .ack => []
  | .value v => [("value", .int v.toInt)]
  | .error message => [("message", .str message)]

def Reply.toJson (reply : Reply) : Json.Value :=
  .obj (("event", .str reply.event) :: reply.payload)

def Reply.text (reply : Reply) : String :=
  reply.toJson.render

def Reply.line (reply : Reply) : Bytes :=
  Utf8.encode reply.text ++ [10]

end PartyBridge.Driver
