import AgentRuns.File.Tree
import AgentRuns.Inspector.Options
import AgentRuns.Inspector.Render
import AgentRuns.Json.Writer
import AgentRuns.Settings
import AgentRuns.Transcript.Assembly

/-!
# The inspector

The inspector shows the events of one log on a terminal, or as values, or only
their statistics. Its target is the path of a log file, the id of a run, or the
start of the name of a run's folder. A file of that path comes first, then the
folder of exactly that name, then the first folder in order whose name begins
with the target and that holds a log.
-/

namespace AgentRuns.Inspector

/-- The log of the run whose id a target is. -/
def exactLog (workRoot : Path) (target : Text) : Path :=
  (workRoot.join (Path.ofText target)).join (Path.ofText Settings.logName)

/-- The log in the work root's folder of a name. -/
def folderLog (workRoot : Path) (name : Text) : Path :=
  { workRoot with segments := workRoot.segments ++ [name, Settings.logName] }

/-- The path of the log that a target names. -/
def resolve? (tree : FileTree) (here : Place) (workRoot : Path) (target : Text) : Option Path :=
  let isLog (path : Path) : Bool := tree.isFile here path
  let direct := Path.ofText target
  let exact := exactLog workRoot target
  if direct.suffix == ".log" && isLog direct then some direct
  else if isLog exact then some exact
  else
    let named := (tree.foldersIn here workRoot).filter (·.startsWith target)
    (named.map (folderLog workRoot)).find? isLog

/-- Every path that `resolve?` may look at, given the names in the work root. -/
def candidates (workRoot : Path) (target : Text) (names : List Text) : List Path :=
  Path.ofText target :: exactLog workRoot target :: names.map (folderLog workRoot)

/-- The work root of the options, or else of the settings. -/
def workRoot (settings : Settings) (options : Options) : Path :=
  Path.ofText (options.workRoot.getD settings.workRoot.text)

/-- What a call leaves behind: a code, and what it writes. -/
structure Outcome where
  code : Nat
  output : Text := []
  errors : Text := []

/-- Lines as they are printed, each with a line feed behind it. -/
def printed (lines : List Text) : Text := lines.flatMap (· ++ "\n")

/-- The complaint about a target that names no log. -/
def notFound (workRoot : Path) (target : Text) : Outcome :=
  let below := workRoot.text ++ "/" ++ target
  let logName : Text := "/" ++ Settings.logName
  { code := 1
    errors := printed
      ["Error: cannot find run log for \"" ++ target ++ "\"",
        "  Tried: " ++ target ++ ", " ++ below ++ logName ++ ", " ++ below ++ "*" ++ logName] }

/-- The lines above the events. -/
def heading (palette : Palette) (path : Path) (log : Text) (events shown : List Event)
    (filter : Option EventKind) : List Text :=
  let showing : Text := match filter with
    | some kind => ", showing " ++ Text.ofNat shown.length ++ " " ++ kind.name
    | none => []
  let lineCount := Text.ofNat log.lines.length
  ["\n" ++ palette.mark .bold ++
      palette.paint .cyan ("── inspect-run: " ++ path.parent.name ++ " ──"),
    palette.paint .dim ("Log: " ++ path.text ++ " (" ++ lineCount ++ " lines)"),
    palette.paint .dim ("Parsed: " ++ Text.ofNat events.length ++ " events" ++ showing) ++ "\n"]

/-- The events of a log as the options ask for them. -/
def display (options : Options) (palette : Palette) (path : Path) (log : Text)
    (events : List Event) : Text :=
  if options.json then printed [Json.write (.list (events.map Event.toJson))]
  else if options.statsOnly then printed [Render.stats palette events]
  else
    let shown := match options.filter with
      | some kind => events.filter (·.kind = kind)
      | none => events
    printed (heading palette path log events shown options.filter ++
      shown.map (Render.event palette) ++ [Render.stats palette events])

/-- A call of the inspector. Help and arguments that make no sense leave only a
    code. -/
def run [NestingLimits] (tree : FileTree) (here : Place) (settings : Settings) (terminal : Bool)
    (arguments : List Text) : Except SummaryError Outcome :=
  match Options.read arguments with
  | .help => return { code := 0 }
  | .rejected => return { code := 2 }
  | .options options => do
    let workRoot := workRoot settings options
    match resolve? tree here workRoot options.target with
    | none => return notFound workRoot options.target
    | some path =>
      let log := Bytes.textLossy ((tree.read? here path).getD [])
      let events ← Transcript.events log
      return { code := 0, output := display options ⟨terminal⟩ path log events }

end AgentRuns.Inspector
