import AgentRuns.Inspector.Basic

/-!
# The command line of the inspector

The command shows the inspector the part of the file system that its arguments
can name, and prints what the inspector makes of it. Files that exist are shown
as empty ones until it is known which of them is read. A file or folder that the
system does not give out counts as absent.
-/

namespace AgentRuns.Command

/-- The path as the system takes it. -/
def named (path : Path) : String := path.text.string

/-- The content of a file. -/
def content? (path : Path) : IO (Option Bytes) := do
  match ← (IO.FS.readBinFile (named path)).toBaseIO with
  | .ok content => return some content.toList
  | .error _ => return none

/-- Whether there is a file at the path. -/
def isFile (path : Path) : IO Bool := do
  let found : IO Bool := do
    let metadata ← (← IO.FS.realPath (named path)).metadata
    return metadata.type == .file
  match ← found.toBaseIO with
  | .ok answer => return answer
  | .error _ => return false

/-- The names in a folder. -/
def namesIn (path : Path) : IO (List Text) := do
  let found : IO (List Text) := do
    let entries ← (← IO.FS.realPath (named path)).readDir
    return entries.toList.map (Text.ofString ·.fileName)
  match ← found.toBaseIO with
  | .ok names => return names
  | .error _ => return []

/-- The folder that relative paths begin at. -/
def here : IO Place := do
  let folder ← IO.currentDir
  return (Path.ofText folder.toString).segments

/-- The settings of the environment. -/
def settings : IO Settings := do
  let found ← Settings.variableNames.filterMapM fun name => do
    let value ← IO.getEnv name.string
    return value.map fun value => (name, (value : Text))
  return Settings.ofEnvironment found

/-- The files that the options can name, the one that they name with its content. -/
def survey (here : Place) (settings : Settings) (options : Options) : IO FileTree := do
  let workRoot := Inspector.workRoot settings options
  let names ← namesIn workRoot
  let files ← (Inspector.candidates workRoot options.target names).filterM isFile
  let marked := files.foldl (fun tree path => tree.write here path [])
    (({} : FileTree).addFolder here)
  match Inspector.resolve? marked here workRoot options.target with
  | none => return marked
  | some path =>
    match ← content? path with
    | some content => return marked.write here path content
    | none => return marked

/-- What the inspector may look at. -/
def tree (here : Place) (settings : Settings) (arguments : List Text) : IO FileTree :=
  match Options.read arguments with
  | .options options => survey here settings options
  | _ => return {}

/-- The outcome on the standard streams. A call that leaves only a code is told
    what the arguments may be. -/
def print (outcome : Inspector.Outcome) : IO UInt32 := do
  if outcome.output.isEmpty && outcome.errors.isEmpty then
    IO.eprint Switch.usage.string
  IO.print outcome.output.string
  IO.eprint outcome.errors.string
  return outcome.code.toUInt32

end AgentRuns.Command

open AgentRuns in
/-- The inspector on the arguments of the command line. -/
def main (arguments : List String) : IO UInt32 := do
  let here ← Command.here
  let settings ← Command.settings
  let arguments := arguments.map Text.ofString
  let tree ← Command.tree here settings arguments
  let terminal ← (← IO.getStdout).isTty
  match Inspector.run tree here settings terminal arguments with
  | .ok outcome => Command.print outcome
  | .error error =>
    IO.eprintln error.message.string
    return 1
