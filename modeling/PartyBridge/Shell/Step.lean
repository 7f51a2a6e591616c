import PartyBridge.Shell.Evaluate

/-!
# Steps of a shell

A shell takes the topmost task of its stack and carries it out, or waits. Signals that it has caught are
handled where a command starts or ends.
-/

namespace PartyBridge.Shell

open Host (Machine Process)

/-! ### Reading a line into variables -/

namespace Reading

def put (r : Reading) (c : Char) : Reading :=
  { r with line := c :: r.line, size := r.size + 1 }

/-- The characters without a backslash end at a place and start again where the line ends. -/
def cut (r : Reading) (place : Nat) : Reading :=
  { r with regions := r.regions ++ [⟨r.start, place, false⟩], start := r.size, escape := none }

/-- One character that has been read; tells whether the line has ended. -/
def char (r : Reading) (c : Char) : Reading × Bool :=
  match if c == '\x00' then none else r.escape with
  | some place => if c == '\n' then (r.cut place, false) else ((r.put c).cut place, false)
  | none =>
    if c == '\x00' then (r, false)
    else if c == '\x5c' && !r.raw then ({ r with escape := some r.size }, false)
    else if c == '\n' then (r, true)
    else (r.put c, false)

def finish (r : Reading) (st : State) (status : Nat) : State :=
  let r := r.cut r.size
  let cells := (r.line.reverse.map Cell.literal).toArray
  let fields := (cutFields cells r.regions st.separators (some r.names.length)).map Cell.text
  let values := fields ++ List.replicate (r.names.length - fields.length) []
  let give : List (List Char × List Char) → State → State := fun pairs st =>
    pairs.foldl
      (fun (st, ended) (name, value) =>
        if ended then (st, true)
        else
          match State.assign st name (some value) with
          | .ok st => (st, false)
          | .error text => (st.dies text, true))
      (st, false) |>.1
  give (r.names.zip values) (st.withStatus status)

end Reading

structure ReadOn where
  m : Machine
  reading : Reading
  status : Option Nat
  moved : Bool

/-- Reads characters one by one until the line ends, there are none, or the allowance is used up. -/
def readChars (pid : Nat) : Nat → Bool → Machine → Reading → ReadOn
  | 0, moved, m, r => ⟨m, r, none, moved⟩
  | fuel + 1, moved, m, r =>
    match m.read pid 0 1 with
    | (m, .data (b :: _)) =>
      match r.char (Char.ofNat b.toNat) with
      | (r, true) => ⟨m, r, some 0, true⟩
      | (r, false) => readChars pid fuel true m r
    | (m, .data []) | (m, .eof) | (m, .refused _) => ⟨m, r, some 1, true⟩
    | (_, .wait) => ⟨m, r, none, moved⟩

/-! ### Texts -/

/-- Whether a fault comes from the end of the text, so that more text may mend it. -/
def SyntaxFault.atEnd (f : SyntaxFault) : Bool :=
  ["Unterminated", "EOF in", "Missing '", "end of file unexpected"].any fun front =>
    ("Syntax error: " ++ front).toList.isPrefixOf f.text

/-- The next commands of a text that is not known to its end; none if more has to be known. -/
def readComplete (aliases : List (List Char × List Char)) (inp : Input) : Option (Except SyntaxFault Line) :=
  if !inp.chars.contains '\n' then none
  else
    let more := [':', '\n']
    match readCommands aliases { inp with chars := inp.chars ++ more } with
    | .error f => if f.atEnd then none else some (.error f)
    | .ok none => none
    | .ok (some line) =>
      if more.length ≤ line.rest.chars.length then
        let chars := line.rest.chars.take (line.rest.chars.length - more.length)
        some (.ok { line with rest := { line.rest with chars } })
      else none

def runText (m : Machine) (pid : Nat) (st : State) (input : Input) (use : ScriptUse) (tested : Bool)
    (status : Nat) : Machine :=
  let commit (st : State) : Machine := m.setBody pid (.shell st)
  match readCommands st.aliases input with
  | .error f => commit (st.diesAt f.line f.text)
  | .ok none =>
    match use with
    | .main | .trap => commit st
    | .eval | .file => commit (st.withStatus status)
  | .ok (some line) =>
    match line.command with
    | none => commit (st.push (.script line.rest use tested status))
    | some command => commit (st.pushAll [.eval command ⟨tested, false⟩, .scriptRan line.rest use tested])

/-! ### Traps -/

/-- The shell handles the signals that it has caught, the least number first. -/
def State.handle (st : State) : State :=
  let signals := st.caught.mergeSort (· ≤ ·)
  let actions := signals.filterMap fun n => st.traps.lookup n
  let status := st.kept.getD st.status
  let tasks := actions.zipIdx.flatMap fun (action, i) =>
    let saved := if i + 1 = actions.length then st.kept else some status
    [Task.script (.ofText action) .trap false 0, .resume status saved]
  if actions.isEmpty then { st with caught := [] }
  else { st.pushAll tasks with caught := [], kept := some status }

/-! ### Waiting -/

def awaitJob (m : Machine) (pid : Nat) (st : State) (slot : Nat) : Option Machine :=
  let (m, st, said, moved) := reapChildren m pid st (some slot)
  match st.job? slot with
  | none => some (m.setBody pid (.shell st))
  | some job =>
    if job.isDone then
      some (m.setBody pid (.shell (((st.freeJob slot).withStatus job.status).report said)))
    else if moved then some (m.setBody pid (.shell ((st.push (.await slot)).report said)))
    else none

def State.awaitedJob (st : State) (name : List Char) : Except (List Char) (Option Nat) :=
  match name with
  | '%' :: _ => (st.namedJob (some name)).map some
  | name =>
    (numberOf name).map fun n =>
      st.jobOrder.find? fun slot =>
        (st.job? slot).any fun job => (job.processes.getLast?).any fun (pid, _) => pid == n

/-- Waits for jobs of the background. A signal that has been caught ends the wait. -/
def awaitJobs (m : Machine) (pid : Nat) (st : State) (todo : List (List Char)) (all : Bool)
    (current : Option Nat) (status : Nat) : Option Machine :=
  let commit (m : Machine) (st : State) : Option Machine := some (m.setBody pid (.shell st))
  let again (current : Option Nat) (todo : List (List Char)) (status : Nat) : Task :=
    .awaitJobs todo all current status
  let interrupted : Option Machine :=
    match st.caught.getLast? with
    | some signal => commit m (st.withStatus (128 + signal))
    | none => none
  if all then
    let (m, st, _, moved) := reapChildren m pid st none
    let running := st.jobOrder.any fun slot => (st.job? slot).any fun job => !job.isDone
    let ended := st.jobOrder.takeWhile fun slot => (st.job? slot).any Job.isDone
    let st := ended.foldl
      (fun st slot => (State.job? st slot).elim st fun job => st.setJob slot { job with waited := true }) st
    if !running then commit m (st.withStatus 0)
    else if moved then commit m (st.push (again none [] 0))
    else interrupted
  else
    match current, todo with
    | none, [] => commit m (st.withStatus status)
    | none, name :: rest =>
      match st.awaitedJob name with
      | .error text => commit m (st.dies text)
      | .ok none => commit m (st.push (again none rest status))
      | .ok (some slot) => commit m (st.push (again (some slot) rest status))
    | some slot, todo =>
      let (m, st, said, moved) := reapChildren m pid st (some slot)
      match st.job? slot with
      | none => commit m (st.push (again none todo status))
      | some job =>
        if job.isDone then
          let st := st.setJob slot { job with waited := true }
          commit m ((st.push (again none todo job.status)).report said)
        else if moved then commit m ((st.push (again (some slot) todo status)).report said)
        else interrupted

def collectSize : Nat := 65536

/-- Removes newlines at the end of an output, which is given from its end, and bytes that no text has. -/
def outputText (output : List Char) : List Char :=
  ((output.filter (· != '\x00')).dropWhile (· == '\n')).reverse

def collectOutput (m : Machine) (pid : Nat) (st : State) (fd slot : Nat) (output : List Char) : Option Machine :=
  match m.read pid fd collectSize with
  | (m, .data bytes) =>
    some (m.setBody pid (.shell (st.push (.collect fd slot ((ofBytes bytes).reverseAux output)))))
  | (_, .wait) => none
  | (m, _) =>
    let (m, st, said, moved) := reapChildren m pid st (some slot)
    match st.job? slot with
    | none => some ((m.closeFd pid fd).setBody pid (.shell st))
    | some job =>
      if job.isDone then
        let st := { st.freeJob slot with outputs := st.outputs ++ [outputText output], substituted := job.status }
        some ((m.closeFd pid fd).setBody pid (.shell (st.report said)))
      else if moved then some (m.setBody pid (.shell ((st.push (.collect fd slot output)).report said)))
      else none

/-- Writes what is left of an output. A builtin whose output cannot be written fails. -/
def writeOn (m : Machine) (pid : Nat) (st : State) (fd : Nat) (bytes : Bytes) (name : List Char) : Option Machine :=
  let failed (m : Machine) (st : State) : Machine :=
    if name.isEmpty then m.setBody pid (.shell st)
    else m.setBody pid (.shell ((st.withStatus (st.status ||| 1)).complain (name ++ ": I/O error".toList)))
  match m.write pid fd bytes with
  | (m, .wrote n) =>
    let rest := bytes.drop n
    some (m.setBody pid (.shell (if rest.isEmpty then st else st.push (.write fd rest name))))
  | (_, .wait) => none
  | (m, .refused e) =>
    if e = .brokenPipe then
      let m := (m.setBody pid (.shell st)).signal pid Host.sigPipe
      match shellOf m pid with
      | some st => some (failed m st)
      | none => some m
    else some (failed m st)

/-! ### Choices and loops -/

def expandLoopWord (m : Machine) (pid : Nat) (st : State) (line : Nat) (name : List Char) (words : List Word)
    (fields : List (List Char)) (body : Option Command) (tested : Bool) : Machine :=
  match words with
  | [] => m.setBody pid (.shell (st.push (.each name fields body tested false)))
  | word :: rest =>
    match expandFields m.tree (cwdOf m pid) st word with
    | .error stop => expansionStopped m pid st (.eachWords line name words fields body tested) stop
    | .ok (more, st) =>
      m.setBody pid (.shell (st.push (.eachWords line name rest (fields ++ more) body tested)))

def chooseArm (m : Machine) (pid : Nat) (st : State) (text : List Char)
    (arms : List (List Word × Option Command)) (mode : Mode) : Machine :=
  let commit (st : State) : Machine := m.setBody pid (.shell st)
  match arms with
  | [] => commit (st.withStatus 0)
  | ([], _) :: rest => commit (st.push (.selectArm text rest mode))
  | (pattern :: patterns, body) :: rest =>
    match expandPattern st pattern with
    | .error stop => expansionStopped m pid st (.selectArm text arms mode) stop
    | .ok (pattern, st) =>
      if matchPattern pattern text then
        match body with
        | some command => commit (st.push (.eval command mode))
        | none => commit (st.withStatus 0)
      else commit (st.push (.selectArm text ((patterns, body) :: rest) mode))

/-! ### Tasks -/

/-- Carries out a task; the stack of the state is what is below it. Nothing if the shell has to wait. -/
def runTask (m : Machine) (pid : Nat) (st : State) (task : Task) : Option Machine :=
  let commit (st : State) : Option Machine := some (m.setBody pid (.shell st))
  let eval (body : Option Command) (mode : Mode) : List Task := body.elim [] fun command => [.eval command mode]
  match task with
  | .script input use tested status => some (runText m pid st input use tested status)
  | .scriptRan input use tested => commit (st.push (.script input use tested st.status))
  | .listen input =>
    match readComplete st.aliases input with
    | some (.error f) => commit (st.diesAt f.line f.text)
    | some (.ok line) => commit (st.pushAll (eval line.command ⟨false, false⟩ ++ [.listen line.rest]))
    | none =>
      match m.read pid 0 8192 with
      | (m, .data bytes) =>
        let text := (ofBytes bytes).filter (· != '\x00')
        some (m.setBody pid (.shell (st.push (.listen { input with chars := input.chars ++ text }))))
      | (_, .wait) => none
      | (m, _) => some (m.setBody pid (.shell (st.push (.script input .main false 0))))
  | .eval command mode =>
    if !st.caught.isEmpty then commit (st.push task).handle
    else if st.has .noexec then commit st
    else some (evaluateCommand m pid st command mode)
  | .settle tested =>
    if !st.caught.isEmpty then commit (st.push task).handle
    else if st.has .errexit && !tested && st.status != 0 then commit (st.quit st.status)
    else commit st
  | .next onSuccess command mode =>
    if (st.status == 0) == onSuccess then commit (st.push (.eval command mode)) else commit st
  | .invert => commit (st.withStatus (if st.status = 0 then 1 else 0))
  | .choose body otherwise mode =>
    if st.status = 0 then commit (st.pushAll (eval body mode))
    else
      match otherwise with
      | some command => commit (st.push (.eval command mode))
      | none => commit (st.withStatus 0)
  | .loopTest untilTrue condition body tested status =>
    if (st.status == 0) != untilTrue then
      commit (st.pushAll (eval body ⟨tested, false⟩ ++ [.loopNext untilTrue condition body tested]))
    else commit (st.withStatus status)
  | .loopNext untilTrue condition body tested =>
    commit (st.pushAll (eval condition ⟨true, false⟩ ++ [.loopTest untilTrue condition body tested st.status]))
  | .eachWords line name words fields body tested =>
    some (expandLoopWord m pid st line name words fields body tested)
  | .each name fields body tested started =>
    match fields with
    | [] => commit (if started then st else st.withStatus 0)
    | field :: rest =>
      match st.assign name (some field) with
      | .error text => commit (st.dies text)
      | .ok st => commit (st.pushAll (eval body ⟨tested, false⟩ ++ [.each name rest body tested true]))
  | .select _ subject arms mode =>
    match expandText st .single subject with
    | .error stop => some (expansionStopped m pid st task stop)
    | .ok (text, st) => commit (st.push (.selectArm text arms mode))
  | .selectArm text arms mode => some (chooseArm m pid st text arms mode)
  | .simple s => some (expandNextWord m pid st s)
  | .targets todo goals behind => some (expandTarget m pid st todo goals behind)
  | .redirect todo saved behind => some (makeRedirection m pid st todo saved behind)
  | .assign s => some (makeAssignment m pid st s)
  | .execute s => some (executeSimple m pid st s)
  | .restore saved => some ((restoreFds m pid saved).setBody pid (.shell st))
  | .endLocals => commit st.forget
  | .leave params optionIndex optionOffset => commit { st with params, optionIndex, optionOffset }
  | .endBuiltin name _ =>
    let (m, st, _) := reapChildren m pid { st with speaker := name } none
    some (m.setBody pid (.shell st))
  | .await slot => awaitJob m pid st slot
  | .awaitJobs todo all current status => awaitJobs m pid st todo all current status
  | .collect fd slot output => collectOutput m pid st fd slot output
  | .read reading =>
    let on := readChars pid 4096 false m reading
    match on.status with
    | some status => some (on.m.setBody pid (.shell (on.reading.finish st status)))
    | none =>
      if on.moved then some (on.m.setBody pid (.shell (st.push (.read on.reading))))
      else if !st.caught.isEmpty then commit (reading.finish st 1)
      else none
  | .write fd bytes name => writeOn m pid st fd bytes name
  | .resume status saved => commit { st with status, kept := saved }
  | .status status => commit (st.withStatus status)
  | .exit status =>
    match st.traps.lookup 0 with
    | some action =>
      let traps := st.traps.filter fun (n, _) => n != 0
      let stack := [Task.script (.ofText action) .trap false 0, .finish status]
      commit { st with traps, status, kept := some status, stack }
    | none => some (m.finish pid (.ofCode ((status % 256 : Nat) : Int)))
  | .finish status => some (m.finish pid (.ofCode ((status % 256 : Nat) : Int)))

def stepShell (m : Machine) (pid : Nat) (st : State) : Option Machine :=
  match st.stack with
  | [] => runTask m pid st (.exit st.status)
  | task :: rest => runTask m pid { st with stack := rest } task

end PartyBridge.Shell
