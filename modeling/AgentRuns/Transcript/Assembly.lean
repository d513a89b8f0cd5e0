import AgentRuns.Block.Summary
import AgentRuns.Event.Progress
import AgentRuns.Transcript.Content

/-!
# Assembling a transcript

A transcript is read line by line. Between items, a line is skipped as noise,
opens a detached block, begins an item, or is prose. Once an item has begun, it
takes the lines that belong to it; the first line that does not settles the item
and is then read as a line between items. Each line is read once, and the items
that were settled before it do not depend on it.

Prose gathers until the next item begins. It becomes one event of reasoning
before that item's event.

The results of some tools are captured. The agent may batch calls and write the
results below the last of them, without names but in the order of the calls. So
every capturing call waits in line, and each block answers the call that has
waited longest: the block that ends a call's output as well as a detached one.
The line spans calls only; an event of any other kind abandons who still waits.
A block without a decodable payload uses up its call all the same.
-/

namespace AgentRuns

/-- A call that is being read. -/
structure Call where
  tool : Text
  extension : Text
  params : Table Text := []
  output : List Line := []

/-- The item that is being read. -/
inductive Stage
  | between
  | session (provider model : Text)
  | command (command : Text) (output : List Line)
  | commandBlock (command : Text) (output : List Line) (block : Block)
  | params (call : Call)
  | body (call : Call)
  | answer (call : Call) (block : Block)
  | detached (block : Block)

namespace Stage

/-- A line below a command: output, noise, or a block that is passed over. -/
def commandTakes? (command : Text) (output : List Line) (line : Line) : Option Stage :=
  if line.isStructural then none
  else if line.opensBlock then some (.commandBlock command output (Block.start line))
  else if line.isNoise then some (.command command output)
  else some (.command command (output ++ [line]))

/-- A line below a call's parameters: output, noise, or the block that ends it. -/
def callTakes? (call : Call) (line : Line) : Option Stage :=
  if line.isStructural then none
  else if line.opensBlock then some (.answer call (Block.start line))
  else if line.isNoise then some (.body call)
  else some (.body { call with output := call.output ++ [line] })

/-- The stage behind a line that belongs to the item, none if it does not. -/
def takes? (stage : Stage) (line : Line) : Option Stage :=
  match stage with
  | .between => none
  | .session .. => if (line.sessionDetail?).isSome then some stage else none
  | .command text output => commandTakes? text output line
  | .commandBlock text output block =>
    if block.takes line then some (.commandBlock text output (block.add line))
    else commandTakes? text output line
  | .params call =>
    if line.isNoise then some stage
    else match line.parameter? with
      | some (key, value) => some (.params { call with params := call.params.put key value })
      | none => callTakes? call line
  | .body call => callTakes? call line
  | .answer call block =>
    if block.takes line then some (.answer call (block.add line)) else none
  | .detached block =>
    if block.takes line then some (.detached (block.add line)) else none

end Stage

/-- What has been read: the events of settled items, the prose since the last of
    them, the places of the calls that wait for a result, and the open item. -/
structure Assembly where
  events : List Event := []
  thinking : List Line := []
  pending : List Nat := []
  stage : Stage := .between

namespace Assembly

/-- One more event. Only calls let other calls go on waiting. -/
def emit (assembly : Assembly) (event : Event) : Assembly :=
  { assembly with
    events := assembly.events ++ [event]
    pending := if event.kind = .toolCall then assembly.pending else [] }

/-- The gathered prose as an event, if it holds reasoning. -/
def flush (assembly : Assembly) : Assembly :=
  let spoken :=
    match Event.reasoning? assembly.thinking with
    | some event => assembly.emit event
    | none => assembly
  { spoken with thinking := [] }

/-- A call's event; a capturing call begins to wait. -/
def announce (assembly : Assembly) (call : Call) : Assembly :=
  let emitted := assembly.emit (.ofCall call.tool call.extension call.params call.output)
  if capturesResult call.tool then
    { emitted with pending := emitted.pending ++ [assembly.events.length] }
  else emitted

/-- A block's summary for the call that has waited longest. An empty summary
    uses up the call and sets nothing. -/
def resolve (assembly : Assembly) (summary : Text) : Assembly :=
  match assembly.pending with
  | [] => assembly
  | position :: waiting =>
    let answer (event : Event) : Event :=
      if summary.isEmpty then event else { event with result := some summary }
    { assembly with pending := waiting, events := assembly.events.modify position answer }

/-- The assembly with its open item settled. -/
def settle [NestingLimits] (assembly : Assembly) : Except SummaryError Assembly :=
  let idle := { assembly with stage := .between }
  match assembly.stage with
  | .between => return idle
  | .session provider model => return idle.emit (.ofSession provider model)
  | .command command output => return idle.emit (.ofCommand command output)
  | .commandBlock command output _ => return idle.emit (.ofCommand command output)
  | .params call => return idle.announce call
  | .body call => return idle.announce call
  | .answer call block =>
    if capturesResult call.tool then
      return (idle.announce call).resolve (← Summary.ofBlock block)
    else return idle.announce call
  | .detached block =>
    if idle.pending.isEmpty then return idle
    else return idle.resolve (← Summary.ofBlock block)

/-- A line between items. -/
def start (assembly : Assembly) (line : Line) : Assembly :=
  if line.isNoise then assembly
  else if line.opensBlock then { assembly with stage := .detached (Block.start line) }
  else match line.toolHeader?, line.command?, line.session?, line.runHeader? with
    | some (tool, extension), _, _, _ =>
      { assembly.flush with stage := .params { tool, extension } }
    | _, some command, _, _ => { assembly.flush with stage := .command command [] }
    | _, _, some (provider, model), _ =>
      { assembly.flush with stage := .session provider model }
    | _, _, _, some _ => assembly.flush.emit { kind := .info, content := line }
    | none, none, none, none => { assembly with thinking := assembly.thinking ++ [line] }

/-- One more line. -/
def feed [NestingLimits] (assembly : Assembly) (line : Line) : Except SummaryError Assembly :=
  match assembly.stage.takes? line with
  | some stage => return { assembly with stage }
  | none => return (← assembly.settle).start line

/-- The events of everything that was read. -/
def finish [NestingLimits] (assembly : Assembly) : Except SummaryError (List Event) :=
  return (← assembly.settle).flush.events

/-- The events of a sequence of lines, not yet placed. -/
def ofLines [NestingLimits] (lines : List Line) : Except SummaryError (List Event) := do
  (← lines.foldlM feed {}).finish

end Assembly

/-- The events of a transcript with their places and shares of the progress. -/
def Transcript.events [NestingLimits] (log : Text) : Except SummaryError (List Event) :=
  return Event.place (← Assembly.ofLines log.lines)

end AgentRuns
