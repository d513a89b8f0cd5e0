import AgentRuns.Event.Stats
import AgentRuns.Validation.Values

/-!
# Events from outside

An event and its statistics may come from a document. Of an event only the kind
must be given; the statistics have a default for every field.
-/

namespace AgentRuns

/-- A number from outside as a share of the progress. -/
def Percent.check (json : Json) : Checked Percent := Percent.given <$> Check.number json

/-- An event from the fields of an object. -/
def Event.checkFields (fields : Table Json) : Checked Event :=
  Event.mk <$> Check.required fields "type" (Check.choice EventKind.ofName?)
    <*> Check.optional fields "index" Check.integer 0
    <*> Check.optional fields "progressPercent" Percent.check (.whole 0)
    <*> Check.optional fields "content" Check.text []
    <*> Check.optional fields "tool" Check.optionalText none
    <*> Check.optional fields "extension" Check.optionalText none
    <*> Check.optional fields "params" (Check.nullable (Check.table Check.text)) none
    <*> Check.optional fields "result" Check.optionalText none
    <*> Check.optional fields "command" Check.optionalText none
    <*> Check.optional fields "phase" Check.optionalText none
    <*> Check.optional fields "provider" Check.optionalText none
    <*> Check.optional fields "model" Check.optionalText none

/-- An event from a document. -/
def Event.check : Json → Checked Event := Check.object Event.checkFields

/-- Statistics from the fields of an object. -/
def EventStats.checkFields (fields : Table Json) : Checked EventStats :=
  EventStats.mk <$> Check.optional fields "totalEvents" Check.integer 0
    <*> Check.optional fields "toolCalls" Check.integer 0
    <*> Check.optional fields "thinkingBlocks" Check.integer 0
    <*> Check.optional fields "shellCommands" Check.integer 0
    <*> Check.optional fields "tools" (Check.table Check.integer) []

/-- Statistics from a document. -/
def EventStats.check : Json → Checked EventStats := Check.object EventStats.checkFields

end AgentRuns
