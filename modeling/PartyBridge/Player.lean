import PartyBridge.Journal.Ledger
import PartyBridge.Options.CommandLine
import PartyBridge.Session.Lifecycle
import PartyBridge.Text.Quoted

/-!
# The player

The player reads its command line, finds the driver of its party, and conducts a session with the
engine. Failures are told on the error output; logs and the trace are written if they are asked for.
-/

namespace PartyBridge.Player

open Host Session Journal

structure Start where
  machine : Machine
  cwd : Path
  environment : List (String × Bytes)
  arguments : List Bytes
  input : Bytes
  /-- The time in seconds that stands in the log. -/
  seconds : Nat

structure Outcome where
  code : Nat
  output : Bytes
  errors : Bytes
  machine : Machine

/-- What stands at the path of a log. A path that leads nowhere cannot be opened, like a directory. -/
def placeAt (t : Tree) (cwd : Path) (path : Bytes) : Place :=
  match t.find cwd path with
  | .ok (.free _) => .missing
  | .ok (.node _ (.file index)) => .file (t.contents index)
  | _ => .directory

def store (m : Machine) (cwd : Path) (path : Bytes) (bytes : ByteArray) : Machine :=
  match m.tree.find cwd path with
  | .ok (.node _ (.file index)) => { m with tree := m.tree.write index bytes }
  | .ok (.free path) => { m with tree := m.tree.putFile path bytes false }
  | _ => m

def storeLog (m : Machine) (s : Start) (ledger : Ledger) : Machine :=
  match ledger.writer, ledger.log with
  | some _, .file bytes => store m s.cwd (logPath s.environment) bytes
  | _, _ => m

/-- Writes notes to the debug log. Others may have written to the same file; one that they have removed
stays away. -/
def storeNotes (m : Machine) (s : Start) (ledger : Ledger) (notes : List Note) : Machine :=
  match ledger.writer, placeAt m.tree s.cwd (logPath s.environment) with
  | some _, .file bytes => storeLog m s ({ ledger with log := .file bytes }.notes s.seconds notes)
  | _, _ => m

def traceTime : String := "1970-01-01T00:00:00.000000Z"

def storeTrace (m : Machine) (s : Start) (trace : List TraceEvent) : Machine :=
  let path := tracePath s.environment
  let old := (placeAt m.tree s.cwd path).bytes
  store m s.cwd path (trace.foldl (fun bytes e => bytes ++ (e.line traceTime).toUTF8) old)

def openTrace (m : Machine) (s : Start) : Except Errno Machine :=
  (m.openPath s.cwd [] (tracePath s.environment) .append).map Prod.fst

structure Course where
  stage : Stage
  trace : List TraceEvent
  result : Except Failure Unit

def play (settings : Options.Settings) (stage : Stage) : Course :=
  let words := settings.driverWords.toOption.join
  match Driver.Loader.create settings.driverDirectory words with
  | .error e => ⟨stage, [], .error (.ofOrigin (.driver e))⟩
  | .ok loader =>
    let party := Text.decimalNat settings.party
    match loader.load stage.scene.machine.tree stage.home.cwd settings.party settings.programText with
    | .error e =>
      let context := "cannot load driver for party " ++ party
      ⟨stage, [], .error ((Failure.ofOrigin (.driver e)).within context)⟩
    | .ok script =>
      let stage := stage.log (loadedNote script)
      let stage := stage.log (event ("Driver: " ++ script.describe))
      let driver (stage : Stage) : Stage × Unit × Except Failure Unit :=
        let (stage, result) := runDriver stage script
        (stage, (), result.mapError fun e => .ofOrigin (.driver e))
      let done := conduct stage settings.invocation (.ofSettings settings) script.describe driver
      match done.result with
      | .error failure => ⟨done.stage, done.trace, .error failure⟩
      | .ok report =>
        let finished := "=== Viaduct Player Finished: drained " ++ Text.decimalNat report.drain.values ++
          " values (" ++ Text.decimalNat report.drain.malformed ++ " malformed), engine " ++
          exitText "not reaped" report.exit ++ " ==="
        ⟨done.stage.log (event finished), done.trace, .ok ()⟩

def proceed (s : Start) (settings : Options.Settings) : Outcome :=
  let level := settings.level
  let ledger := (Ledger.unset (placeAt s.machine.tree s.cwd (logPath s.environment)) .missing).configure level
  let machine := storeLog s.machine s ledger
  let (machine, tracing, notes) :=
    if level = .off then (machine, false, [])
    else
      match openTrace machine s with
      | .ok machine => (machine, true, [])
      | .error e =>
        (machine, false, [event ("tracing disabled: cannot open " ++
          Utf8.decodeLossy (tracePath s.environment) ++ ": " ++ e.text)])
  let (machine, errors) := machine.newPipe
  let machine := { machine with held := [.readEnd errors, .writeEnd errors] }
  let answers := ByteStream.lineReads 8192 [.chunk s.input]
  let bridge := Bridge.start .unlimited .unlimited .empty answers none
  let path := Text.quoted (Utf8.decodeLossy (logPath s.environment))
  let notes := event ("Log file: " ++ path) :: event "=== Viaduct Player Started ===" :: notes
  let scene := (Scene.quiet machine .empty).logAll notes
  let stage : Stage := ⟨scene.tap errors, bridge, none, some errors, ⟨s.cwd, environmentOf s.environment⟩⟩
  let course := play settings stage
  let scene := course.stage.scene
  let (code, scene) := match course.result with
    | .ok () => (0, scene)
    | .error failure => (1, (scene.send errors (Utf8.encode failure.report)).1)
  let scene := (scene.release (.writeEnd errors)).awaitUntil fun s => s.tapEnded errors
  let machine := storeNotes scene.machine s ledger scene.notes.reverse
  let machine := if tracing then storeTrace machine s course.trace else machine
  ⟨code, course.stage.bridge.screen.stored, scene.tapped errors, machine⟩

def run (s : Start) : Outcome :=
  match Options.readCommandLine s.arguments s.environment with
  | .error refusal =>
    let text := Utf8.encode (refusal.message ++ "\n")
    let code := refusal.exitCode.toNat
    if refusal.askedFor then ⟨code, text, [], s.machine⟩ else ⟨code, [], text, s.machine⟩
  | .ok settings =>
    match settings.validate with
    | .error fault =>
      ⟨1, [], Utf8.encode (Failure.ofOrigin (.other fault.message)).report, s.machine⟩
    | .ok settings => proceed s settings

end PartyBridge.Player
