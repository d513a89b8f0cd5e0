import AgentRuns.Text.Breaks
import AgentRuns.Transcript.Assembly

/-!
# Logs

A log is the file that a transcript is kept in. Its tail is its last lines; at
least one line is always shown.
-/

namespace AgentRuns.Log

/-- The last lines of a log's text. -/
def tail (count : Int) (log : Text) : Text :=
  let lines := log.lines
  Text.unlines (lines.drop (lines.length - (max 1 count).toNat))

end AgentRuns.Log
