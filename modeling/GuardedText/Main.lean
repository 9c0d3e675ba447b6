import GuardedText.Tool.Run
import Std.Time.DateTime.Timestamp

/-! The command line. The files that a run can touch are read into a tree first; what the run
changes in the tree is written back after it. -/

namespace GuardedText.Main

open Files

/-- The locations that a path leads through. -/
def locationsOf (here : Location) (path : String) : List Location :=
  Tree.visited (Path.origin here path) (Path.steps path)

/-- The paths that a run can touch, besides those of files of variables. -/
def footprint (a : Tool.Arguments) : List String :=
  [Tool.logFile] ++ a.output.toList ++ a.input.toList

/-- Adds the node at a location to a tree, if there is one on disk. -/
def observe (t : Tree) (loc : Location) : IO Tree := do
  let path := (← IO.currentDir) / Path.ofSteps loc
  if ← path.isDir then return t.put loc .directory
  else if ← path.pathExists then
    return t.put loc (.file (← IO.FS.readBinFile path).toList)
  else return t

/-- Brings the node at a location to disk. -/
def store (loc : Location) (node : Node) : IO Unit := do
  let path := (← IO.currentDir) / Path.ofSteps loc
  match node with
  | .directory => IO.FS.createDirAll path
  | .file bytes => IO.FS.writeBinFile path ⟨bytes.toArray⟩

/-- The variables that a run can ask for before it has read a file of variables. -/
def variableNames : List String :=
  ["NODE_ENV", "LOG_LEVEL", "LOG_FILE", "PPD_DIRECTIVE_PREFIX", "HOME", "DOTENV_KEY",
    "DOTENV_CONFIG_PATH", "DOTENV_CONFIG_ENCODING", "DOTENV_CONFIG_OVERRIDE",
    "DOTENV_CONFIG_DEBUG", "DOTENV_CONFIG_DOTENV_KEY"]

/-- The environment with these variables as they are set outside. -/
def observeVariables (env : Environment) (names : List String) : IO Environment :=
  names.foldlM (fun env name => return ((← IO.getEnv name).map (env.set name)).getD env) env

def readStandardInput : IO (List UInt8) := do
  return (← (← IO.getStdin).readBinToEnd).toList

/-- The time as a log line shows it. -/
def timestamp : IO String := do
  let now ← Std.Time.Timestamp.now
  return (Instant.mk now.toMillisecondsSinceUnixEpoch.toInt).isoText

def run (argv : List String) : IO UInt32 := do
  let here := Path.steps (← IO.currentDir).toString
  let env ← observeVariables (.ofEntries []) variableNames
  let source := VariableSource.requested env argv
  let (paths, wantsInput) :=
    match Tool.Arguments.parse argv with
    | .ok a => (footprint a, a.input.isNone && !a.help)
    | .error _ => ([], false)
  let asked := [source.path, source.sealedPath here, (source.asSealed here).path] ++ paths
  let files ← (Tree.visited [] here ++ asked.flatMap (locationsOf here)).foldlM observe Tree.empty
  let env ← observeVariables env (source.namesInvolved env files here)
  let stdin ← if wantsInput then readStandardInput else pure []
  let w : World := { files, here, timestamp := ← timestamp, printed := [] }
  let outcome := Tool.run argv env stdin w
  for (loc, node) in outcome.world.files.nodes.reverse do
    if files.lookup loc != some node then store loc node
  IO.print outcome.standardOutput
  IO.eprint outcome.world.errorText
  return outcome.exitCode.toUInt32

end GuardedText.Main

def main (argv : List String) : IO UInt32 := do
  try GuardedText.Main.run argv
  catch e =>
    IO.eprintln ("Error: " ++ toString e)
    return 1
