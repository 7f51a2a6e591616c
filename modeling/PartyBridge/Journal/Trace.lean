import PartyBridge.Json.Value

/-!
# The trace

The trace tells the course of a session in lines of JSON, for programs to read.
-/

namespace PartyBridge.Journal

inductive Weight where
  | info
  | warn
deriving Repr, DecidableEq, Inhabited

def Weight.name : Weight → String
  | .info => "INFO"
  | .warn => "WARN"

structure TraceEvent where
  weight : Weight
  message : String
  fields : List (String × Json.Value)
deriving Inhabited

namespace TraceEvent

def toJson (e : TraceEvent) (timestamp : String) : Json.Value :=
  .obj [("timestamp", .str timestamp), ("level", .str e.weight.name),
    ("fields", .obj (("message", .str e.message) :: e.fields))]

def line (e : TraceEvent) (timestamp : String) : String :=
  (e.toJson timestamp).render ++ "\n"

end TraceEvent

end PartyBridge.Journal
