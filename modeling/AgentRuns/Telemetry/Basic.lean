import AgentRuns.Json.Basic
import AgentRuns.Number.Shortest

/-!
# Telemetry

The dashboard reports that it parses logs and that it fails to read them. Two
families of instruments take such reports, each family switched on by itself and
each instrument present or not. A report becomes the observations of the
instruments that take it, in a fixed order.

Durations and counts below zero are observed as zero, and a label without a text
as unknown. A span is observed only where a tracer is present; attributes
without a value are left out.

A duration is observed as a number of the binary format and a count as an
integer. An amount that cannot become one is an error where an instrument takes
it, and goes unnoticed where none does.
-/

namespace AgentRuns

/-- What takes observations. Instruments of the second family are exported. -/
inductive Instrument
  | tracer
  | parses
  | parseLatency
  | parseEvents
  | readFailures
  | exportedParses
  | exportedParseLatency
  | exportedReadFailures
  deriving DecidableEq

/-- Why an amount cannot be observed. -/
inductive TelemetryError
  | durationTooLarge
  | countNotANumber
  | countInfinite
  deriving DecidableEq

/-- The error in words. -/
def TelemetryError.message : TelemetryError → Text
  | .durationTooLarge => "int too large to convert to float"
  | .countNotANumber => "cannot convert float NaN to integer"
  | .countInfinite => "cannot convert float infinity to integer"

/-- A duration or a count as it is reported. -/
inductive Amount
  | whole (number : Int)
  | measured (number : Binary64)

namespace Amount

/-- The amount as a duration that is not below zero. -/
def duration : Amount → Except TelemetryError Binary64
  | .whole number =>
    match Binary64.ofInt number with
    | .infinite _ => .error .durationTooLarge
    | finite => .ok (if 0 < number then finite else .zero)
  | .measured number => .ok (if number.isPositive then number else .zero)

/-- The amount as a count that is not below zero. -/
def count : Amount → Except TelemetryError Int
  | .whole number => .ok (max 0 number)
  | .measured .nan => .error .countNotANumber
  | .measured (.infinite _) => .error .countInfinite
  | .measured number => .ok (max 0 (number.truncate?.getD 0))

end Amount

/-- What is reported. -/
inductive Signal
  | span (name : Text) (attributes : Table Json)
  | parsed (outcome : Text) (milliseconds events : Amount)
  | readFailed (endpoint : Text)

/-- What an instrument observes: one more occurrence, a value, a span's start, or
    an attribute of the span. -/
inductive Observation
  | counted (instrument : Instrument) (label : Text × Text)
  | measured (instrument : Instrument) (value : Text) (label : Text × Text)
  | spanStarted (name : Text)
  | attributed (key : Text) (value : Json)

/-- Which families are switched on, and which instruments are not there. -/
structure Telemetry where
  enabled : Bool
  exported : Bool
  absent : List Instrument := []

namespace Telemetry

/-- Whether an instrument is there. -/
def has (telemetry : Telemetry) (instrument : Instrument) : Bool :=
  !telemetry.absent.contains instrument

/-- Whether an instrument of the first family takes reports. -/
def takes (telemetry : Telemetry) (instrument : Instrument) : Bool :=
  telemetry.enabled && telemetry.has instrument

/-- Whether an instrument of the exported family takes reports. -/
def exports (telemetry : Telemetry) (instrument : Instrument) : Bool :=
  telemetry.exported && telemetry.has instrument

/-- Whether spans are started. -/
def traces (telemetry : Telemetry) : Bool := telemetry.takes .tracer

/-- A label's value. -/
def labelled (name value : Text) : Text × Text := (name, Text.orElse value "unknown")

/-- What a counter observes that takes reports or does not. -/
def counts (taken : Bool) (counter : Instrument) (label : Text × Text) : List Observation :=
  if taken then [.counted counter label] else []

/-- What an instrument of durations observes that takes reports or does not. -/
def times (taken : Bool) (instrument : Instrument) (milliseconds : Amount)
    (label : Text × Text) : Except TelemetryError (List Observation) :=
  if taken then return [.measured instrument (← milliseconds.duration).text label]
  else return []

/-- What an instrument of counts observes that takes reports or does not. -/
def sizes (taken : Bool) (instrument : Instrument) (size : Amount)
    (label : Text × Text) : Except TelemetryError (List Observation) :=
  if taken then return [.measured instrument (Text.ofInt (← size.count)) label]
  else return []

/-- What the instruments observe of a report. -/
def observe (telemetry : Telemetry) : Signal → Except TelemetryError (List Observation)
  | .span name attributes =>
    if telemetry.traces then
      return .spanStarted name :: attributes.filterMap fun (key, value) =>
        match value with
        | .null => none
        | _ => some (.attributed key value)
    else return []
  | .parsed outcome milliseconds events => do
    let label := labelled "result" outcome
    let latency ← times (telemetry.takes .parseLatency) .parseLatency milliseconds label
    let found ← sizes (telemetry.takes .parseEvents) .parseEvents events label
    let exportedLatency ←
      times (telemetry.exports .exportedParseLatency) .exportedParseLatency milliseconds label
    return counts (telemetry.takes .parses) .parses label ++ latency ++ found ++
      counts (telemetry.exports .exportedParses) .exportedParses label ++ exportedLatency
  | .readFailed endpoint =>
    let label := labelled "endpoint" endpoint
    return counts (telemetry.takes .readFailures) .readFailures label ++
      counts (telemetry.exports .exportedReadFailures) .exportedReadFailures label

end Telemetry

end AgentRuns
