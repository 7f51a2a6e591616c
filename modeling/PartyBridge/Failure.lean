import PartyBridge.Driver.Error
import PartyBridge.Engine.Invocation

/-!
# Failures with their causes

A failure has an origin and the contexts in which it was met, outermost first.
-/

namespace PartyBridge

inductive Origin where
  | driver (e : Driver.DriverError)
  | bridge (e : BridgeError)
  | launch (e : Engine.LaunchError)
  | other (text : String)
deriving Repr, DecidableEq

def Origin.chain : Origin → List String
  | .driver e => e.chain
  | .bridge e => e.chain
  | .launch e => e.chain
  | .other text => [text]

/-- A failure: the contexts in which it was met, outermost first, and its origin. -/
structure Failure where
  contexts : List String
  origin : Origin
deriving Repr, DecidableEq

namespace Failure

def ofOrigin (origin : Origin) : Failure :=
  ⟨[], origin⟩

def within (f : Failure) (context : String) : Failure :=
  { f with contexts := context :: f.contexts }

def chain (f : Failure) : List String :=
  f.contexts ++ f.origin.chain

def text (f : Failure) : String :=
  ": ".intercalate f.chain

/-- The failure as a program reports it before it ends: causes are numbered if there is more than
one, and further lines of a cause are indented. -/
def report (f : Failure) : String :=
  let indented (width : Nat) (text : String) : String :=
    ("\n" ++ String.ofList (List.replicate width ' ')).intercalate (text.splitOn "\n")
  match f.chain with
  | [] => "Error: \n"
  | [only] => "Error: " ++ only ++ "\n"
  | [outer, cause] => "Error: " ++ outer ++ "\n\nCaused by:\n    " ++ indented 4 cause ++ "\n"
  | outer :: causes =>
    let lines := causes.zipIdx.map fun (cause, i) =>
      let number := Text.decimalNat i
      "\n" ++ String.ofList (List.replicate (5 - number.length) ' ') ++ number ++ ": " ++
        indented 7 cause
    "Error: " ++ outer ++ "\n\nCaused by:" ++ String.join lines ++ "\n"

end Failure

end PartyBridge
