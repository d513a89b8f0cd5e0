import AgentRuns.Run.Identifier

/-!
# A run's status in words

The status of a run is told in one line for each fact. Eight facts are always
told; others only where they are known and not empty.
-/

namespace AgentRuns.Run

/-- A line for a fact that may be unknown. -/
def fact (label : Text) (value : Option Text) : List Line :=
  (Text.present? value).toList.map (label ++ ·)

/-- The line that tells how a run was judged. -/
def feedbackLine (feedback : Feedback) : Line :=
  let note := match Text.present? feedback.note with
    | some note => " (" ++ note ++ ")"
    | none => []
  "Feedback: " ++ feedback.rating.name ++ note

/-- The lines of a run's status. -/
def statusLines (run : Run) : List Line :=
  let known : List Line :=
    ["Run: " ++ Identifier.short run.id,
      "Status: " ++ run.status.name,
      "Phase: " ++ (run.phase.map RunPhase.name).getD "queued",
      "Repo: " ++ run.repoSlug,
      "Branch: " ++ run.branchName,
      "Base: " ++ run.baseBranch,
      "Requested by: <@" ++ run.requestedBy ++ ">",
      "Created at: " ++ run.createdAt]
  let files := run.changedFiles.length
  known ++ fact "PR: " run.prUrl ++ fact "Error: " run.error ++
    fact "Logs: " run.logsPath ++ fact "Commit: " run.commitSha ++
    (if files = 0 then [] else ["Changed files: " ++ Text.ofNat files]) ++
    run.feedback.toList.map feedbackLine

/-- A run's status. -/
def statusText (run : Run) : Text := Text.unlines run.statusLines

end AgentRuns.Run
