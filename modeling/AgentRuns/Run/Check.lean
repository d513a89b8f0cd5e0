import AgentRuns.Run.Basic
import AgentRuns.Validation.Values

/-!
# Runs from outside

The checks that turn documents into runs, feedback and requests. Only the facts
that every run has from its beginning are required; whatever comes later has a
default.
-/

namespace AgentRuns

/-- Feedback from the fields of an object. -/
def Feedback.checkFields (fields : Table Json) : Checked Feedback :=
  Feedback.mk <$> Check.required fields "rating" (Check.choice Rating.ofName?)
    <*> Check.optional fields "note" Check.optionalText none
    <*> Check.optional fields "by" Check.optionalText none
    <*> Check.optional fields "at" Check.text []

/-- Feedback from a document. -/
def Feedback.check : Json → Checked Feedback := Check.object Feedback.checkFields

/-- A run from the fields of an object. -/
def Run.checkFields (fields : Table Json) : Checked Run :=
  Run.mk <$> Check.required fields "id" Check.text
    <*> Check.optional fields "status" (Check.choice RunStatus.ofName?) .queued
    <*> Check.optional fields "phase" (Check.nullable (Check.choice RunPhase.ofName?))
      (some .queued)
    <*> Check.required fields "repoSlug" Check.text
    <*> Check.required fields "task" Check.text
    <*> Check.required fields "baseBranch" Check.text
    <*> Check.required fields "branchName" Check.text
    <*> Check.required fields "requestedBy" Check.text
    <*> Check.required fields "channelId" Check.text
    <*> Check.required fields "threadTs" Check.text
    <*> Check.required fields "createdAt" Check.text
    <*> Check.optional fields "startedAt" Check.optionalText none
    <*> Check.optional fields "finishedAt" Check.optionalText none
    <*> Check.optional fields "logsPath" Check.optionalText none
    <*> Check.optional fields "statusMessageTs" Check.optionalText none
    <*> Check.optional fields "commitSha" Check.optionalText none
    <*> Check.optional fields "changedFiles" (Check.list Check.text) []
    <*> Check.optional fields "prUrl" Check.optionalText none
    <*> Check.optional fields "feedback" (Check.nullable Feedback.check) none
    <*> Check.optional fields "error" Check.optionalText none
    <*> Check.optional fields "parentRunId" Check.optionalText none
    <*> Check.optional fields "rootRunId" Check.optionalText none
    <*> Check.optional fields "chainIndex" Check.integer 0
    <*> Check.optional fields "parentBranchName" Check.optionalText none
    <*> Check.optional fields "feedbackNote" Check.optionalText none

/-- A run from a document. -/
def Run.check : Json → Checked Run := Check.object Run.checkFields

/-- A request for a run from the fields of an object. -/
def NewRun.checkFields (fields : Table Json) : Checked NewRun :=
  NewRun.mk <$> Check.required fields "repoSlug" Check.text
    <*> Check.required fields "task" Check.text
    <*> Check.required fields "baseBranch" Check.text
    <*> Check.required fields "requestedBy" Check.text
    <*> Check.required fields "channelId" Check.text
    <*> Check.required fields "threadTs" Check.text
    <*> Check.optional fields "parentRunId" Check.optionalText none
    <*> Check.optional fields "feedbackNote" Check.optionalText none

/-- A request for a run from a document. -/
def NewRun.check : Json → Checked NewRun := Check.object NewRun.checkFields

/-- A judgement that was sent in, from the fields of an object. -/
def FeedbackRequest.checkFields (fields : Table Json) : Checked FeedbackRequest :=
  FeedbackRequest.mk <$> Check.optional fields "rating" Check.text []
    <*> Check.optional fields "note" Check.optionalText none
    <*> Check.optional fields "by" Check.optionalText none

/-- A judgement that was sent in, from a document. -/
def FeedbackRequest.check : Json → Checked FeedbackRequest :=
  Check.object FeedbackRequest.checkFields

end AgentRuns
