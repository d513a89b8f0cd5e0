import AgentRuns.Json.Basic

/-!
# Runs

A run is one piece of work that an agent was asked for: where it was asked, what
came of it and how people judged it. A run that follows up another one names its
parent and the first run of its chain, and counts its place in the chain.

A run is stored as an object with every field in a fixed order; a field that has
no value is null there.
-/

namespace AgentRuns

/-- How far a run has come. -/
inductive RunStatus
  | queued
  | running
  | validating
  | pushing
  | completed
  | failed
  deriving DecidableEq

namespace RunStatus

/-- The statuses, among which a name is looked up. -/
def all : List RunStatus := [.queued, .running, .validating, .pushing, .completed, .failed]

/-- The name in documents. -/
def name : RunStatus → Text
  | .queued => "queued"
  | .running => "running"
  | .validating => "validating"
  | .pushing => "pushing"
  | .completed => "completed"
  | .failed => "failed"

/-- The status of a name. -/
def ofName? (name : Text) : Option RunStatus := all.find? (·.name == name)

/-- Whether a run of this status is not finished. -/
def inProgress : RunStatus → Bool
  | .completed | .failed => false
  | _ => true

end RunStatus

/-- What a run is doing. -/
inductive RunPhase
  | queued
  | cloning
  | agent
  | validating
  | pushing
  | completed
  | failed
  deriving DecidableEq

namespace RunPhase

/-- The phases, among which a name is looked up. -/
def all : List RunPhase :=
  [.queued, .cloning, .agent, .validating, .pushing, .completed, .failed]

/-- The name in documents. -/
def name : RunPhase → Text
  | .queued => "queued"
  | .cloning => "cloning"
  | .agent => "agent"
  | .validating => "validating"
  | .pushing => "pushing"
  | .completed => "completed"
  | .failed => "failed"

/-- The phase of a name. -/
def ofName? (name : Text) : Option RunPhase := all.find? (·.name == name)

end RunPhase

/-- A judgement. -/
inductive Rating
  | up
  | down
  deriving DecidableEq

namespace Rating

/-- The ratings, among which a name is looked up. -/
def all : List Rating := [.up, .down]

/-- The name in documents. -/
def name : Rating → Text
  | .up => "up"
  | .down => "down"

/-- The rating of a name. -/
def ofName? (name : Text) : Option Rating := all.find? (·.name == name)

end Rating

/-- How a run was judged, by whom and when. -/
structure Feedback where
  rating : Rating
  note : Option Text := none
  author : Option Text := none
  date : Text := []
  deriving DecidableEq

/-- The feedback as an object. -/
def Feedback.toJson (feedback : Feedback) : Json :=
  .object
    [("rating", .string feedback.rating.name), ("note", .ofText? feedback.note),
      ("by", .ofText? feedback.author), ("at", .string feedback.date)]

/-- A run as it is stored. -/
structure Run where
  id : Text
  status : RunStatus := .queued
  phase : Option RunPhase := some .queued
  repoSlug : Text
  task : Text
  baseBranch : Text
  branchName : Text
  requestedBy : Text
  channelId : Text
  threadTs : Text
  createdAt : Text
  startedAt : Option Text := none
  finishedAt : Option Text := none
  logsPath : Option Text := none
  statusMessageTs : Option Text := none
  commitSha : Option Text := none
  changedFiles : List Text := []
  prUrl : Option Text := none
  feedback : Option Feedback := none
  error : Option Text := none
  parentRunId : Option Text := none
  rootRunId : Option Text := none
  chainIndex : Int := 0
  parentBranchName : Option Text := none
  feedbackNote : Option Text := none
  deriving DecidableEq

namespace Run

/-- The fields of a stored run, in order. -/
def fields (run : Run) : Table Json :=
  [("id", .string run.id),
    ("status", .string run.status.name),
    ("phase", .ofText? (run.phase.map RunPhase.name)),
    ("repoSlug", .string run.repoSlug),
    ("task", .string run.task),
    ("baseBranch", .string run.baseBranch),
    ("branchName", .string run.branchName),
    ("requestedBy", .string run.requestedBy),
    ("channelId", .string run.channelId),
    ("threadTs", .string run.threadTs),
    ("createdAt", .string run.createdAt),
    ("startedAt", .ofText? run.startedAt),
    ("finishedAt", .ofText? run.finishedAt),
    ("logsPath", .ofText? run.logsPath),
    ("statusMessageTs", .ofText? run.statusMessageTs),
    ("commitSha", .ofText? run.commitSha),
    ("changedFiles", .list (run.changedFiles.map .string)),
    ("prUrl", .ofText? run.prUrl),
    ("feedback", (run.feedback.map Feedback.toJson).getD .null),
    ("error", .ofText? run.error),
    ("parentRunId", .ofText? run.parentRunId),
    ("rootRunId", .ofText? run.rootRunId),
    ("chainIndex", .int run.chainIndex),
    ("parentBranchName", .ofText? run.parentBranchName),
    ("feedbackNote", .ofText? run.feedbackNote)]

/-- The run as an object. -/
def toJson (run : Run) : Json := .object run.fields

end Run

/-- What is asked for when a run is created. -/
structure NewRun where
  repoSlug : Text
  task : Text
  baseBranch : Text
  requestedBy : Text
  channelId : Text
  threadTs : Text
  parentRunId : Option Text := none
  feedbackNote : Option Text := none
  deriving DecidableEq

/-- What someone who judges a run sends in. The rating is not yet known to be
    one. -/
structure FeedbackRequest where
  rating : Text := []
  note : Option Text := none
  author : Option Text := none
  deriving DecidableEq

end AgentRuns
