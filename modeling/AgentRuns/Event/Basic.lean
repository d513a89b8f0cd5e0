import AgentRuns.Json.Basic
import AgentRuns.Number.Shortest

/-!
# Events

A transcript is shown as a sequence of events. Every event has a kind, a place
in the sequence, a share of the run's progress and a content; the other fields
belong to some kinds only and are absent elsewhere. An absent field differs from
an empty one.
-/

namespace AgentRuns

/-- What an event reports. -/
inductive EventKind
  | sessionStart
  | agentThinking
  | toolCall
  | shellCommand
  | phaseMarker
  | info
  deriving DecidableEq

namespace EventKind

/-- Every kind, in the order in which they are listed to users. -/
def all : List EventKind :=
  [.sessionStart, .agentThinking, .toolCall, .shellCommand, .phaseMarker, .info]

/-- The name that documents and options use. -/
def name : EventKind → Text
  | .sessionStart => "session_start"
  | .agentThinking => "agent_thinking"
  | .toolCall => "tool_call"
  | .shellCommand => "shell_cmd"
  | .phaseMarker => "phase_marker"
  | .info => "info"

/-- The kind of a name. -/
def ofName? (name : Text) : Option EventKind := all.find? (·.name == name)

end EventKind

/-- A share of the run's progress in percent: a milestone in whole percent, a
    measured share in tenths of a percent, or a number that came from outside. -/
inductive Percent
  | whole (percent : Nat)
  | tenths (count : Nat)
  | given (number : Binary64)
  deriving DecidableEq

namespace Percent

/-- The share with one decimal. -/
def text : Percent → Text
  | .whole percent => Binary64.tenthsText (10 * percent)
  | .tenths count => Binary64.tenthsText count
  | .given number => number.oneDecimal

/-- The share as a value: milestones are integers. -/
def toJson : Percent → Json
  | .whole percent => .int percent
  | .tenths count => .float (Binary64.ofDecimal false count (-1))
  | .given number => .float number

end Percent

/-- One event of a run. -/
structure Event where
  kind : EventKind
  index : Int := 0
  progress : Percent := .whole 0
  content : Text := []
  tool : Option Text := none
  extension : Option Text := none
  params : Option (Table Text) := none
  result : Option Text := none
  command : Option Text := none
  phase : Option Text := none
  provider : Option Text := none
  model : Option Text := none
  deriving DecidableEq

namespace Event

/-- The fields that are present, in their fixed order. -/
def fields (event : Event) : Table Json :=
  let optional (name : Text) (value : Option Text) : Table Json :=
    value.toList.map fun value => (name, .string value)
  let common : Table Json :=
    [("type", .string event.kind.name), ("index", .int event.index),
      ("progressPercent", event.progress.toJson), ("content", .string event.content)]
  let params : Table Json := event.params.toList.map fun params =>
    ("params", .object (params.map fun (key, value) => (key, .string value)))
  common ++ optional "tool" event.tool ++ optional "extension" event.extension ++
    params ++ optional "result" event.result ++ optional "command" event.command ++
    optional "phase" event.phase ++ optional "provider" event.provider ++
    optional "model" event.model

/-- The event as an object of the fields that are present. -/
def toJson (event : Event) : Json := .object event.fields

end Event

end AgentRuns
