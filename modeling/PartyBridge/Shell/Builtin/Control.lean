import PartyBridge.Shell.Builtin.Arguments

/-!
# Builtins that leave commands

Loops, functions, files and the shell itself are left by taking tasks off the stack. Tasks that undo
something stay.
-/

namespace PartyBridge.Shell

namespace Task

/-- Whether a task is carried out when commands around it are left. What a trap gives back is not
carried out if a status is told. -/
def survives (told : Bool) : Task → Bool
  | .settle _ | .endBuiltin .. => true
  | .resume .. => !told
  | task => task.cleans

end Task

/-! ### Loops -/

/-- What is left of a stack up to the loop that is `n` levels out, that loop, and what is below it. -/
def leaveLoops : Nat → List Task → List Task × Option (Task × List Task)
  | _, [] => ([], none)
  | n, task :: rest =>
    if task.isLoop then if n ≤ 1 then ([], some (task, rest)) else leaveLoops (n - 1) rest
    else
      let (kept, loop) := leaveLoops n rest
      (if task.survives false then task :: kept else kept, loop)

/-- What follows a loop that is left; its condition does not count. -/
def afterBreak : Task → List Task
  | .loopTest _ _ _ _ status => [.status status]
  | _ => []

def afterContinue (task : Task) : List Task :=
  match task with
  | .loopTest _ (some condition) _ _ _ => [.eval condition ⟨true, false⟩, task]
  | task => [task]

namespace State

/-- `break` and `continue`. -/
def leaveLoop (st : State) (continues : Bool) (args : List (List Char)) : State :=
  match args.head?.elim (.ok 1) numberOf with
  | .error text => st.dies text
  | .ok 0 => st.dies ("Illegal number: ".toList ++ args.headD [])
  | .ok (n + 1) =>
    let st := st.withStatus 0
    match min (n + 1) st.loopCount with
    | 0 => st
    | n =>
      match leaveLoops n st.stack with
      | (kept, none) => { st with stack := kept }
      | (kept, some (loop, rest)) =>
        let next := if continues then afterContinue loop else afterBreak loop
        { st with stack := kept ++ next ++ rest }

/-! ### Functions and files -/

/-- What is left of a stack up to the end of the function or the file that runs. A loop whose condition is
left without a status that is told gives its own. -/
def leaveFunction (told : Bool) : List Task → List Task
  | [] => []
  | task :: rest =>
    match task with
    | .leave .. | .finish _ => task :: rest
    | .script _ .file .. | .scriptRan _ .file .. => rest
    | .loopTest _ _ _ _ status => if told then leaveFunction told rest else .status status :: leaveFunction told rest
    | task => if task.survives told then task :: leaveFunction told rest else leaveFunction told rest

def returnFrom (st : State) (args : List (List Char)) : State :=
  match args.head?.elim (.ok st.status) numberOf with
  | .error text => st.dies text
  | .ok status =>
    { st.withStatus status with stack := leaveFunction (!args.isEmpty) st.stack }

/-- `exit`. A trap that ends the shell without a status keeps the one before it. -/
def exitWith (st : State) (args : List (List Char)) : State :=
  match args.head?.elim (.ok (st.kept.getD st.status)) numberOf with
  | .error text => st.dies text
  | .ok status => { st with kept := none }.quit status

/-! ### Running texts -/

def evalText (st : State) (tested : Bool) (args : List (List Char)) : State :=
  if args.isEmpty then st.withStatus 0
  else st.push (.script (.ofText ([' '].intercalate args)) .eval tested 0)

end State

end PartyBridge.Shell
