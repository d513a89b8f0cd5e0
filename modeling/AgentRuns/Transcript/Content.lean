import AgentRuns.Event.Basic
import AgentRuns.Transcript.Line

/-!
# The content of events

A call is headed by its tool and by the first telling parameter it has: a path,
a command or a query. A command is headed by itself. Below the heading stands
the captured output without blanks around it, if there is any.

Reasoning is the text of the prose lines between two items, less the inner
fields of result blocks. A text that still begins like the tail of a block is
what a block left behind that was given up early, and is no reasoning.
-/

namespace AgentRuns

/-- Whether the results of a tool's calls are captured. -/
def capturesResult (tool : Text) : Bool :=
  tool == "memory_search" || tool == "memory_add"

/-- Words in a command that tell the phase of the run, the first phase first. -/
def phaseWords : List (Text × List Text) :=
  [("cloning", ["git clone"]), ("agent", ["goose run", "AGENT_COMMAND"]),
    ("pushing", ["git push"]), ("committing", ["git add", "git commit"])]

/-- The phase that a command begins: the first one with a word in the command. -/
def phase? (command : Text) : Option Text :=
  (phaseWords.find? fun (_, words) => words.any (Text.includes command)).map (·.1)

/-- A path without what leads to the working copy of its repository. Any other
    path of more than three segments is shown by its last three. -/
def shortenPath (path : Text) : Text :=
  match Text.afterFirst? "/repo/" path with
  | some inside => inside
  | none =>
    let segments := path.splitOn (.char '/')
    if 3 < segments.length then
      ".../" ++ Text.join "/" (segments.drop (segments.length - 3))
    else path

/-- The heading of a call. -/
def callHeading (tool : Text) (params : Table Text) : Text :=
  let telling : List (Option Text) :=
    [(Text.present? (params.get? "path")).map shortenPath,
      Text.present? (params.get? "command"), Text.present? (params.get? "query")]
  match telling.findSome? id with
  | some value => tool ++ ": " ++ value
  | none => tool

/-- A heading with the output that belongs to it. -/
def withOutput (heading : Text) (output : List Line) : Text :=
  let shown := Text.strip (Text.unlines output)
  if shown.isEmpty then heading else heading ++ "\n" ++ shown

namespace Event

/-- A session's start. -/
def ofSession (provider model : Text) : Event :=
  { kind := .sessionStart
    provider := some provider
    model := some model
    content := "Session started with " ++ provider ++ " / " ++ model }

/-- A command with its output. A command that begins a phase marks it. -/
def ofCommand (command : Text) (output : List Line) : Event :=
  let phase := phase? command
  { kind := if phase.isSome then .phaseMarker else .shellCommand
    command := some command
    phase := phase
    content := withOutput ("$ " ++ command) output }

/-- A tool call with its output. -/
def ofCall (tool extension : Text) (params : Table Text) (output : List Line) : Event :=
  { kind := .toolCall
    tool := some tool
    extension := some extension
    params := some params
    content := withOutput (callHeading tool params) output }

/-- The reasoning in prose lines, if they hold any. -/
def reasoning? (lines : List Line) : Option Event :=
  let text := Text.strip (Text.unlines (lines.filter (!·.leaksBlock)))
  if text.isEmpty || (Line.debris? text).isSome then none
  else some { kind := .agentThinking, content := text }

end Event

end AgentRuns
