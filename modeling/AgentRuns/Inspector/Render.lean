import AgentRuns.Event.Stats
import AgentRuns.Inspector.Palette
import AgentRuns.Text.Blank
import AgentRuns.Text.Case

/-!
# Events on a terminal

Each kind of event has its own form, which begins with the event's number. Long
texts and long outputs are abridged; the first line of a content is its heading
and is not shown again as output. Below the events stands a summary of their
statistics, of the tools by frequency, and of the memory tools' calls.
-/

namespace AgentRuns.Render

/-- The characters of a parameter or of an output line that are shown. -/
def previewWidth : Nat := 120

/-- The characters of reasoning that are shown. -/
def thinkingWidth : Nat := 200

/-- The characters of a memory query that are shown. -/
def queryWidth : Nat := 60

/-- The length of the longest bar. -/
def maxBar : Nat := 40

/-- Whether a tool works on the agent's memory. -/
def isMemoryTool (tool : Option Text) : Bool :=
  match tool with
  | some name => name.startsWith "memory"
  | none => false

/-- A field that is shown even where it is absent. -/
def orNone (field : Option Text) : Text := field.getD "None"

/-- An event's number in three columns. -/
def number (event : Event) : Text := Text.alignRight 3 (Text.ofInt event.index)

/-- An event's number in its own style. -/
def numbered (palette : Palette) (event : Event) : Text := palette.paint .gray (number event)

/-- The lines of a content below its heading, less the blank ones. -/
def output (content : Text) : List Line :=
  (content.lines.drop 1).filter (!Text.allBlank ·)

/-- The first lines of an output, and how many more there are. -/
def outputPreview (palette : Palette) (limit : Nat) (lines : List Line) : List Line :=
  let shown := (lines.take limit).map fun line =>
    "     " ++ palette.paint .dim (line.take previewWidth)
  let others := lines.length - limit
  if others = 0 then shown
  else
    shown ++ ["     " ++ palette.paint .dim ("... " ++ Text.ofNat others ++ " more lines")]

/-- A parameter's value, abridged to the width of previews. -/
def parameterValue (value : Text) : Text :=
  if value.length ≤ previewWidth then value else value.take (previewWidth - 3) ++ "..."

/-- The style of a tool's name. -/
def toolStyle (tool : Option Text) : Style := if isMemoryTool tool then .magenta else .cyan

/-- A tool call: its tool and extension, its parameters, its output, its result. -/
def toolCall (palette : Palette) (event : Event) : Text :=
  let extension : Text := match Text.present? event.extension with
    | some extension => palette.paint .gray ("| " ++ extension)
    | none => []
  let heading := numbered palette event ++ " " ++ palette.mark (toolStyle event.tool) ++
    palette.paint .bold (orNone event.tool) ++ " " ++ extension
  let params := (event.params.getD []).map fun (key, value) =>
    "     " ++ palette.paint .gray (key ++ ":") ++ " " ++ parameterValue value
  let result : List Line := match Text.present? event.result with
    | some result =>
      ("     " ++ palette.mark .green ++ palette.paint .bold "RESULT:") ::
        result.lines.map fun line => "     " ++ palette.paint .green line
    | none => []
  Text.unlines (heading :: params ++ outputPreview palette 5 (output event.content) ++ result)

/-- Reasoning on one line, unless it has lines of its own. -/
def thinking (palette : Palette) (event : Event) : Text :=
  palette.mark .gray ++ number event ++ " " ++
    palette.paint .dim ("[thinking] " ++ Text.abridge thinkingWidth event.content)

/-- A command and its output. -/
def shellCommand (palette : Palette) (event : Event) : Text :=
  let heading :=
    numbered palette event ++ " " ++ palette.paint .blue ("$ " ++ orNone event.command)
  Text.unlines (heading :: outputPreview palette 3 (output event.content))

/-- The style of a phase. -/
def phaseStyle (phase : Text) : Style :=
  let styles : Table Style :=
    [("cloning", .onCyan), ("agent", .onGreen), ("pushing", .onMagenta),
      ("committing", .onYellow)]
  (styles.get? phase).getD .onCyan

/-- A phase and the command that begins it. -/
def phaseMarker (palette : Palette) (event : Event) : Text :=
  let phase := event.phase.getD []
  numbered palette event ++ " " ++
    palette.paint (phaseStyle phase) (" " ++ Text.upper phase ++ " ") ++ " " ++
    palette.paint .dim (event.command.getD [])

/-- A session's provider and model. -/
def sessionStart (palette : Palette) (event : Event) : Text :=
  numbered palette event ++ " " ++ palette.paint .onGreen " SESSION " ++ " " ++
    palette.paint .bold (orNone event.provider) ++ " / " ++ orNone event.model

/-- Any other event: its content. -/
def info (palette : Palette) (event : Event) : Text :=
  numbered palette event ++ " " ++ palette.paint .dim event.content

/-- An event in the form of its kind. -/
def event (palette : Palette) (event : Event) : Text :=
  match event.kind with
  | .toolCall => toolCall palette event
  | .agentThinking => thinking palette event
  | .shellCommand => shellCommand palette event
  | .phaseMarker => phaseMarker palette event
  | .sessionStart => sessionStart palette event
  | .info => info palette event

/-- The counts of a summary. -/
def counts (palette : Palette) (stats : EventStats) : List Line :=
  [[],
    palette.paint .bold "── Summary ──",
    "  Total events:    " ++ palette.paint .bold (Text.ofInt stats.totalEvents),
    "  Tool calls:      " ++ palette.paint .cyan (Text.ofInt stats.toolCalls),
    "  Thinking blocks: " ++ palette.paint .gray (Text.ofInt stats.thinkingBlocks),
    "  Shell commands:  " ++ palette.paint .blue (Text.ofInt stats.shellCommands)]

/-- A tool with a bar as long as it was often called. -/
def toolLine (palette : Palette) (name : Text) (count : Int) : Line :=
  let bar : Text := List.replicate (min count maxBar).toNat (.char '█')
  "  " ++ palette.paint (toolStyle (some name)) (Text.alignLeft 20 name) ++ " " ++
    palette.paint .dim bar ++ " " ++ Text.ofInt count

/-- The tools, the most frequent first. -/
def tools (palette : Palette) (stats : EventStats) : List Line :=
  if stats.tools.isEmpty then []
  else
    let ranked := stats.tools.mergeSort fun first second => second.2 ≤ first.2
    [[], palette.paint .bold "── Tools Used ──"] ++
      ranked.map fun (name, count) => toolLine palette name count

/-- What a memory tool was asked. -/
def memoryQuery (event : Event) : Text :=
  let params := event.params.getD []
  let content := ((params.get? "content").getD []).take queryWidth
  ((Text.present? (params.get? "query")).or (Text.present? (some content))).getD "(no params)"

/-- A call of a memory tool and whether it has a result. -/
def memoryLine (palette : Palette) (event : Event) : Line :=
  let outcome := match Text.present? event.result with
    | some _ => palette.paint .green "result"
    | none => palette.paint .red "no result"
  let query : Text := "\"" ++ (memoryQuery event).take queryWidth ++ "\""
  "  " ++ palette.paint .magenta (orNone event.tool) ++ " " ++ palette.paint .dim query ++
    " → " ++ outcome

/-- The calls of memory tools. -/
def memoryTools (palette : Palette) (events : List Event) : List Line :=
  let calls := events.filter fun event => event.kind = .toolCall && isMemoryTool event.tool
  if calls.isEmpty then []
  else
    [[], palette.paint .bold "── Memory Tools ──"] ++ calls.map (memoryLine palette)

/-- The summary of a sequence of events. -/
def stats (palette : Palette) (events : List Event) : Text :=
  let stats := EventStats.ofEvents events
  Text.unlines (counts palette stats ++ tools palette stats ++ memoryTools palette events)

end AgentRuns.Render
