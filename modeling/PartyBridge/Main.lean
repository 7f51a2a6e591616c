import PartyBridge.Host.Program
import PartyBridge.Player

/-!
# The command line

The player at the working directory. The files there are copied onto the machine on which the engine
and the driver run, and the logs are copied back at the end.
-/

namespace PartyBridge.CommandLine

open Host

def variableNames : List String :=
  Options.Parameter.options.filterMap Options.Parameter.standIn? ++
    ["VIADUCT_PLAYER_LOG", "VIADUCT_PLAYER_TRACE_LOG", "TMPDIR", "PATH"]

def readEnvironment : IO (List (String × Bytes)) :=
  variableNames.filterMapM fun name => do
    return (← IO.getEnv name).map fun text => (name, Utf8.encode text)

def greatestDepth : Nat := 8

/-- Copies a directory and what is in it. Every file may be executed. -/
def copyDirectory : Nat → Tree → String → IO Tree
  | 0, t, _ => return t
  | depth + 1, t, directory => do
    let path := (pathNames (Utf8.encode directory)).filter fun name => !name.isEmpty
    let entries ← (← IO.FS.realPath directory).readDir
    entries.foldlM
      (fun t entry => do
        if ← entry.path.isDir then copyDirectory depth t entry.path.toString
        else
          let bytes ← IO.FS.readBinFile entry.path
          return t.putFile (path ++ [Utf8.encode entry.fileName]) bytes true)
      (t.putDirectory path)

def copyBack (m : Machine) (cwd : Path) (path : Bytes) : IO Unit := do
  match Player.placeAt m.tree cwd path, Utf8.decode? path with
  | .file bytes, some name => IO.FS.writeBinFile name bytes
  | _, _ => return

def play (arguments : List String) : IO UInt32 := do
  let directory := (← IO.currentDir).toString
  let tree ← copyDirectory greatestDepth standardTree directory
  let cwd := (pathNames (Utf8.encode directory)).filter fun name => !name.isEmpty
  let environment ← readEnvironment
  let input ← (← IO.getStdin).readBinToEnd
  let seconds := (← IO.monoMsNow) / 1000
  let outcome := Player.run
    ⟨.boot tree, cwd, environment, arguments.map Utf8.encode, input.toList, seconds⟩
  (← IO.getStdout).write ⟨outcome.output.toArray⟩
  (← IO.getStderr).write ⟨outcome.errors.toArray⟩
  copyBack outcome.machine cwd (Journal.logPath environment)
  copyBack outcome.machine cwd (Journal.tracePath environment)
  return outcome.code.toUInt32

end PartyBridge.CommandLine

def main (arguments : List String) : IO UInt32 :=
  PartyBridge.CommandLine.play arguments
