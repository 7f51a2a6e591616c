import PartyBridge.Text.Integer

/-!
# The engine's command line

An engine is started as its program, extra arguments, the party's number and the name of the
computation.
-/

namespace PartyBridge.Engine

structure Invocation where
  program : String
  args : List String
deriving Repr, DecidableEq, Inhabited

def Invocation.forParty (engine : String) (extra : List String) (party : Nat) (program : String) :
    Invocation :=
  ⟨engine, extra ++ [Text.decimalNat party, program]⟩

/-- The command line in one line, without quotes. -/
def Invocation.text (command : Invocation) : String :=
  command.args.foldl (fun line arg => line ++ " " ++ arg) command.program

inductive LaunchError where
  | notFound (program : String)
  | spawn (command : String) (source : String)
  | missingPipe (command : String) (pipe : String)
deriving Repr, DecidableEq

def LaunchError.message : LaunchError → String
  | .notFound program => "engine executable '" ++ program ++ "' not found"
  | .spawn command source => "failed to spawn engine '" ++ command ++ "': " ++ source
  | .missingPipe command pipe => "engine '" ++ command ++ "' did not expose its " ++ pipe ++ " pipe"

def LaunchError.chain : LaunchError → List String
  | .spawn command source => [LaunchError.message (.spawn command source), source]
  | e => [e.message]

end PartyBridge.Engine
