import AgentRuns.Event.Basic

/-!
# Statistics of events

Statistics count all events, three groups of kinds, and the calls of each tool
in the order in which the tools first appear. Phase markers are commands too. A
call without a tool's name counts as unknown.
-/

namespace AgentRuns

/-- Counts over a sequence of events. -/
structure EventStats where
  totalEvents : Int := 0
  toolCalls : Int := 0
  thinkingBlocks : Int := 0
  shellCommands : Int := 0
  tools : Table Int := []
  deriving DecidableEq

namespace EventStats

/-- The name under which a call is counted. -/
def toolName (event : Event) : Text := Text.orElse (event.tool.getD []) "unknown"

/-- The counts with one more event. -/
def add (stats : EventStats) (event : Event) : EventStats :=
  let stats := { stats with totalEvents := stats.totalEvents + 1 }
  match event.kind with
  | .toolCall =>
    { stats with
      toolCalls := stats.toolCalls + 1
      tools := stats.tools.tally (toolName event) }
  | .agentThinking => { stats with thinkingBlocks := stats.thinkingBlocks + 1 }
  | .shellCommand | .phaseMarker => { stats with shellCommands := stats.shellCommands + 1 }
  | .sessionStart | .info => stats

/-- The counts of a sequence of events. -/
def ofEvents (events : List Event) : EventStats := events.foldl add {}

end EventStats

end AgentRuns
