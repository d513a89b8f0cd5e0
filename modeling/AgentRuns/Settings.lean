import AgentRuns.File.Path
import AgentRuns.Table
import AgentRuns.Text.Case
import AgentRuns.Text.Integer

/-!
# Settings

Settings come from environment variables. Most of them are taken without blanks
around them, and an empty one counts as absent; addresses and the service name
are taken as they are. A number that cannot be read is replaced by its default.
Some defaults follow from the application's name.
-/

namespace AgentRuns

/-- What the environment can set. -/
structure Settings where
  appName : Text
  appSlug : Text
  dataDir : Path
  workRoot : Path
  runsFile : Path
  runLogName : Text
  branchPrefix : Text
  defaultBaseBranch : Text
  otelEnabled : Bool
  otelEndpoint : Text
  otelServiceName : Text
  promPort : Int
  dashboardHost : Text
  dashboardPort : Int
  frontendOrigin : Text

namespace Settings

/-- The file of a run's log inside its folder. -/
def logName : Text := "run.log"

/-- The variables that settings come from. -/
def variableNames : List Text :=
  ["GOOSEHERD_APP_NAME", "GOOSEHERD_DATA_DIR", "GOOSEHERD_WORK_ROOT",
    "GOOSEHERD_BRANCH_PREFIX", "GOOSEHERD_DEFAULT_BASE_BRANCH", "GOOSEHERD_OTEL_ENABLED",
    "GOOSEHERD_OTEL_ENDPOINT", "GOOSEHERD_OTEL_SERVICE_NAME", "GOOSEHERD_PROM_PORT",
    "GOOSEHERD_DASHBOARD_HOST", "GOOSEHERD_DASHBOARD_PORT", "GOOSEHERD_FRONTEND_ORIGIN"]

/-- A variable without blanks around it, or its default. -/
def trimmed (environment : Table Text) (name fallback : Text) : Text :=
  Text.orElse (Text.strip ((environment.get? name).getD [])) fallback

/-- A variable as it is, or its default. -/
def verbatim (environment : Table Text) (name fallback : Text) : Text :=
  (environment.get? name).getD fallback

/-- A variable as an integer, or its default. -/
def integer (environment : Table Text) (name : Text) (fallback : Int) : Int :=
  ((environment.get? name).bind Text.toInt?).getD fallback

/-- Whether a variable has one of the words that switch something on. -/
def switchedOn (environment : Table Text) (name : Text) : Bool :=
  let words : List Text := ["1", "true", "yes", "on"]
  match environment.get? name with
  | some value => words.contains (Text.lower (Text.strip value))
  | none => false

/-- A name in small letters with hyphens for its blanks. -/
def slug (name : Text) : Text := Text.join "-" (Text.words (Text.lower name))

/-- The settings of an environment. -/
def ofEnvironment (environment : Table Text) : Settings :=
  let appName := trimmed environment "GOOSEHERD_APP_NAME" "Gooseherd"
  let appSlug := slug appName
  let dataDir := Path.ofText (trimmed environment "GOOSEHERD_DATA_DIR" "data")
  { appName
    appSlug
    dataDir
    workRoot := Path.ofText (trimmed environment "GOOSEHERD_WORK_ROOT" ".work")
    runsFile := dataDir.join (Path.ofText "runs.json")
    runLogName := logName
    branchPrefix := trimmed environment "GOOSEHERD_BRANCH_PREFIX" appSlug
    defaultBaseBranch := trimmed environment "GOOSEHERD_DEFAULT_BASE_BRANCH" "main"
    otelEnabled := switchedOn environment "GOOSEHERD_OTEL_ENABLED"
    otelEndpoint := verbatim environment "GOOSEHERD_OTEL_ENDPOINT" "http://localhost:4318"
    otelServiceName :=
      verbatim environment "GOOSEHERD_OTEL_SERVICE_NAME" (appSlug ++ "-dashboard")
    promPort := integer environment "GOOSEHERD_PROM_PORT" 0
    dashboardHost := trimmed environment "GOOSEHERD_DASHBOARD_HOST" "127.0.0.1"
    dashboardPort := integer environment "GOOSEHERD_DASHBOARD_PORT" 8787
    frontendOrigin :=
      verbatim environment "GOOSEHERD_FRONTEND_ORIGIN" "http://localhost:3000" }

/-- The settings without any variable set. -/
def standard : Settings := ofEnvironment []

end Settings

end AgentRuns
