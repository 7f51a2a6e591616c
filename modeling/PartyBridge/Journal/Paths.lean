import PartyBridge.Text.Utf8

/-!
# Where the logs are kept

A variable may name the file; otherwise it stands in the directory for temporary files.
-/

namespace PartyBridge.Journal

def temporaryDirectory (environment : List (String × Bytes)) : Bytes :=
  (environment.lookup "TMPDIR").getD (Utf8.encode "/tmp")

/-- A name inside a directory; a path that starts at the root stands for itself. -/
def joinPath (directory name : Bytes) : Bytes :=
  if name.head? = some 47 then name
  else if directory.isEmpty || directory.getLast? = some 47 then directory ++ name
  else directory ++ [47] ++ name

/-- The path that a variable names, unless it is no text, or a name among the temporary files. -/
def pathFrom (environment : List (String × Bytes)) (variableName file : String) : Bytes :=
  match environment.lookup variableName with
  | some path =>
    if (Utf8.decode? path).isSome then path
    else joinPath (temporaryDirectory environment) (Utf8.encode file)
  | none => joinPath (temporaryDirectory environment) (Utf8.encode file)

def logPath (environment : List (String × Bytes)) : Bytes :=
  pathFrom environment "VIADUCT_PLAYER_LOG" "viaduct_player.log"

def crashPath (environment : List (String × Bytes)) : Bytes :=
  joinPath (temporaryDirectory environment) (Utf8.encode "viaduct_player_crash.log")

def tracePath (environment : List (String × Bytes)) : Bytes :=
  pathFrom environment "VIADUCT_PLAYER_TRACE_LOG" "viaduct_player_trace.jsonl"

end PartyBridge.Journal
