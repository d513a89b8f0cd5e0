import AgentRuns.Event.Stats
import AgentRuns.Store.Query
import AgentRuns.Telemetry.Basic
import AgentRuns.Transcript.Log

/-!
# The dashboard

The dashboard answers requests about runs from the storage document and from the
runs' logs. A run is named as people write it; a name that leads to no single run
is refused, and so is one whose log's path is malformed. Nothing is answered about the
runs of a document that nests too deeply to be loaded. A log that cannot be read is
shown as empty and reported. Logs are parsed anew on every request, so that a run
that goes on shows how far it is.

Feedback is taken only with a known rating. A note or an author that is blank
counts as none; both are cut at a fixed length.
-/

namespace AgentRuns

/-- Where the dashboard finds everything: a tree of files, the folder that relative
    paths begin at, the storage file and the root of the runs' folders. -/
structure Site where
  tree : FileTree := {}
  here : Place := []
  storage : Path
  workRoot : Path

namespace Site

/-- The storage document. -/
def document (site : Site) : Document := site.tree.read? site.here site.storage

/-- The site with another storage document. -/
def withDocument (site : Site) : Document → Site
  | some content =>
    { site with tree := site.tree.write site.here site.storage content }
  | none => { site with tree := site.tree.remove site.here site.storage }

/-- Where the content of the storage file is kept until all of it is written. -/
def draft (site : Site) : Path := site.storage.withSuffix ".tmp"

/-- The site behind a change of its store. What is written goes to the draft, which
    then takes the place of the storage file: no draft is left behind. -/
def behind {α : Type} (site : Site) (change : Store.Change α) : Site :=
  match change.written with
  | some content =>
    let stored := site.withDocument content
    { stored with tree := stored.tree.remove site.here site.draft }
  | none => site

/-- The path of a run's log. -/
def logPath (site : Site) (run : Run) : Except PathError Path :=
  Store.logPath site.here site.workRoot run

/-- The text of a run's log, none if it cannot be read. -/
def log (site : Site) (run : Run) : Except PathError (Option Text) := do
  let path ← (← site.logPath run).wellFormed
  return (site.tree.read? site.here path).map Bytes.textLossy

/-- The site behind an attempt to write a run's log, and what is wrong with the
    log's path if the attempt fails. The folder of the log is made before the log is
    opened, so it is there even if nothing but the log's own name is malformed. -/
def writeLog (site : Site) (run : Run) (content : Bytes) : Site × Except PathError Unit :=
  match site.logPath run with
  | .error error => (site, .error error)
  | .ok path =>
    match path.parent.wellFormed, path.wellFormed with
    | .error error, _ => (site, .error error)
    | .ok folder, .error error =>
      ({ site with tree := (site.tree.makeFolder site.here folder).1 }, .error error)
    | .ok _, .ok path =>
      ({ site with tree := site.tree.write site.here path content }, .ok ())

end Site

/-- Why a request is refused. -/
inductive RequestError
  | unknownRun (written : Text)
  | unknownRating
  | path (error : PathError)
  | summary (error : SummaryError)
  | store (error : StoreError)

/-- A request's outcome, and what was reported on the way. -/
structure Reply (α : Type) where
  outcome : Except RequestError α
  signals : List Signal := []

namespace Dashboard

/-- How many runs or lines are given where a request names no number above 0. -/
def defaultLimit : Nat := 100

/-- How many are given at most, whatever number a request names. -/
def maxLimit : Nat := 500

/-- The length at which notes are cut. -/
def maxNote : Nat := 1000

/-- The length at which authors' names are cut. -/
def maxAuthor : Nat := 120

/-- The limit that a request asks for: a positive integer up to the greatest
    limit, and the default for anything else. -/
def limit (written : Option Text) : Nat :=
  match written.bind Text.toInt? with
  | some number => if number < 1 then defaultLimit else (min number maxLimit).toNat
  | none => defaultLimit

/-- The run that a request names. -/
def run [NestingLimits] (site : Site) (written : Text) : Except RequestError Run :=
  match Store.search written site.document with
  | .ok (some run) => .ok run
  | .ok none => .error (.unknownRun written)
  | .error error => .error (.store error)

/-- The runs that the storage document holds. -/
def loaded [NestingLimits] (site : Site) : Except RequestError (List Run) :=
  (Store.load site.document).mapError .store

/-- The newest runs, as many as a request asks for. -/
def runs [NestingLimits] (site : Site) (written : Option Text) :
    Except RequestError (List Run) :=
  (loaded site).map (Store.newest · (limit written))

/-- The tail of a run's log. -/
structure LogTail where
  runId : Text
  lines : Nat
  log : Text

/-- The tail of a run's log, as long as a request asks for. -/
def logTail [NestingLimits] (site : Site) (written : Text) (lines : Option Text) :
    Reply LogTail :=
  match run site written with
  | .error error => { outcome := .error error }
  | .ok run =>
    let count := limit lines
    match site.log run with
    | .error error => { outcome := .error (.path error) }
    | .ok (some log) => { outcome := .ok ⟨run.id, count, Log.tail count log⟩ }
    | .ok none => { outcome := .ok ⟨run.id, count, []⟩, signals := [.readFailed "log"] }

/-- The events of a run and their statistics. -/
structure RunEvents where
  runId : Text
  events : List Event
  stats : EventStats

/-- The reports of a log's parse that takes so many milliseconds. One that fails
    has begun a span and reports no outcome. -/
def parseSignals (log : Text) (milliseconds : Binary64)
    (parsed : Except SummaryError (List Event)) : List Signal :=
  let span := Signal.span "gooseherd.parse_run_log" [("log.bytes", .int log.length)]
  match parsed with
  | .ok events =>
    let outcome : Text := if events.isEmpty then "empty" else "success"
    [span, .parsed outcome (.measured milliseconds) (.whole events.length)]
  | .error _ => [span]

/-- The events of a run, parsed anew in so many milliseconds. -/
def events [NestingLimits] (site : Site) (milliseconds : Binary64) (written : Text) :
    Reply RunEvents :=
  match run site written with
  | .error error => { outcome := .error error }
  | .ok run =>
    match site.log run with
    | .error error => { outcome := .error (.path error) }
    | .ok none => { outcome := .ok ⟨run.id, [], {}⟩, signals := [.readFailed "events"] }
    | .ok (some log) =>
      let parsed := Transcript.events log
      { outcome :=
          match parsed with
          | .ok events => .ok ⟨run.id, events, .ofEvents events⟩
          | .error error => .error (.summary error)
        signals := parseSignals log milliseconds parsed }

/-- The feedback that a request makes, if its rating is known. -/
def feedback? (request : FeedbackRequest) (now : Text) : Option Feedback :=
  let kept (length : Nat) (text : Option Text) : Option Text :=
    Text.present? (text.map fun text => (Text.strip text).take length)
  (Rating.ofName? request.rating).map fun rating =>
    { rating
      note := kept maxNote request.note
      author := some ((kept maxAuthor request.author).getD "dashboard")
      date := now }

/-- A run with the feedback of a request, and what is written for it. -/
def giveFeedback [NestingLimits] (site : Site) (written : Text) (request : FeedbackRequest)
    (now : Text) : Except RequestError (Store.Change Run) :=
  match run site written with
  | .error error => .error error
  | .ok run =>
    match feedback? request now with
    | none => .error .unknownRating
    | some feedback =>
      match Store.saveFeedback run.id feedback site.document with
      | .ok change => .ok change
      | .error (.unknownRun _) => .error (.unknownRun written)
      | .error error => .error (.store error)

/-- The runs in the thread of a run, oldest first. -/
def chain [NestingLimits] (site : Site) (written : Text) : Except RequestError (List Run) := do
  let run ← run site written
  return Store.chain (← loaded site) run.channelId run.threadTs

/-- The dashboard's own state: that it works, its storage file, and whether it
    reports. -/
def health (settings : Settings) (reporting : Bool) : Table Text :=
  [("status", "ok"), ("runsFile", settings.runsFile.text),
    ("telemetry", if reporting then "enabled" else "disabled")]

end Dashboard

namespace RequestError

/-- The status code of a refusal. -/
def status? : RequestError → Option Nat
  | .unknownRun _ => some 404
  | .unknownRating => some 400
  | _ => none

/-- The refusal in words. -/
def message : RequestError → Text
  | .unknownRun written => "Run not found: " ++ written
  | .unknownRating => "rating must be one of: up, down"
  | .path error => error.message
  | .summary error => error.message
  | .store error => error.message

end RequestError

end AgentRuns
