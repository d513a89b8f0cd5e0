import AgentRuns.Text.Blank
import AgentRuns.Text.Digit
import AgentRuns.Text.Word

/-!
# The lines of a transcript

Two writers share a transcript. The agent announces each tool call by a header
and writes the call's parameters, its output and its result block below; between
calls it writes prose. The executor writes run headers, session lines and the
commands that it runs.

Each recognizer names one kind of line and returns what the line carries. All of
them scan from the start without going back: every part ends at a character that
the part itself cannot hold. A recognizer that reads to the end of the line also
accepts a single line feed there.

Noise belongs to neither writer and may stand anywhere. The internals and the
debris of a result block are lines that only a block that was cut short can
leave behind.
-/

namespace AgentRuns.Line

/-- Whether nothing but an optional line feed is left. -/
def ends (rest : Text) : Bool := rest.isEmpty || rest == "\n"

/-- The leading characters of a kind, of which there must be some, and what
    follows them. -/
def some? (kind : CodePoint → Bool) (text : Text) : Option (Text × Text) :=
  let (part, rest) := text.span kind
  if part.isEmpty then none else some (part, rest)

/-- The rest of the line as one part that is not empty. -/
def remainder? (text : Text) : Option Text := do
  let (part, rest) ← some? (fun c => c != '\n') text
  if ends rest then return part else none

/-- A tool header `─── tool | extension ───…`: the tool and its extension. -/
def toolHeader? (line : Line) : Option (Text × Text) := do
  let (tool, rest) ← some? (!Text.isBlank ·) (← line.after? "─── ")
  let (extension, rest) ← some? (!Text.isBlank ·) (← rest.after? " | ")
  let (_, rest) ← some? (fun c => c == '─') (← rest.after? " ")
  if ends rest then return (tool, extension) else none

/-- A command line `$ command`: the command. -/
def command? (line : Line) : Option Text := do remainder? (← line.after? "$ ")

/-- A session line: its provider and its model. -/
def session? (line : Line) : Option (Text × Text) := do
  let opening := "starting session | provider: "
  let (provider, rest) ← some? (!Text.isBlank ·) (← line.after? opening)
  return (provider, ← remainder? (← rest.after? " model: "))

/-- An indented detail of a session: its label. -/
def sessionDetail? (line : Line) : Option Text := do
  let (_, rest) ← some? Text.isBlank line
  let labelled (label : Text) : Option Text := do
    let _ ← remainder? (← (← rest.after? label).after? ": ")
    return label
  (labelled "session id").or (labelled "working directory")

/-- A run header `Name run id`: the run's id. -/
def runHeader? (line : Line) : Option Text := do
  let (_, rest) ← some? Text.isWord line
  let (id, rest) ← some? (fun c => Text.isWord c || c == '-') (← rest.after? " run ")
  if ends rest then return id else none

/-- A parameter `key: value` of a tool call. -/
def parameter? (line : Line) : Option (Text × Text) := do
  let (key, rest) ← some? (fun c => c.within 'a' 'z' || c == '_') line
  return (key, ← remainder? (← rest.after? ": "))

/-- Whether the line opens a result block. -/
def opensBlock (line : Line) : Bool :=
  match line.after? "Annotated" with
  | some rest => (Text.stripStart rest).startsWith "\x7b"
  | none => false

/-- Whether the line announces a tool call. -/
def isToolHeader (line : Line) : Bool := (toolHeader? line).isSome

/-- Whether the line begins an item of its own and so ends whatever is being
    read: a tool header, a command, a session line or a run header. -/
def isStructural (line : Line) : Bool :=
  isToolHeader line || (command? line).isSome || (session? line).isSome ||
    (runHeader? line).isSome

/-- Whether the line announces that a login profile is being loaded. -/
def loadsProfile (line : Line) : Bool :=
  let loading? : Option Bool := do
    let rest ← (Text.stripStart (← line.after? "---")).after? "loading"
    let (_, rest) ← some? Text.isBlank rest
    return rest.startsWith ".bash_profile"
  loading?.getD false

/-- Whether the line is a shell's complaint about a command it does not know. -/
def complainsOfCommand (line : Line) : Bool :=
  let complaint? : Option Bool := do
    let (_, rest) ← some? Text.isDigit (← line.after? "zsh:")
    return rest.startsWith ": command not found:"
  complaint?.getD false

/-- Whether the line carries no meaning: it is blank, or the environment of the
    run wrote it. -/
def isNoise (line : Line) : Bool :=
  Text.allBlank line || line.startsWith "🎊" || loadsProfile line ||
    complainsOfCommand line || line.includes "All secrets loaded from cache"

/-- Whether the line is an inner field of a result block. -/
def leaksBlock (line : Line) : Bool :=
  let field := Text.stripStart line
  let names (name value : Text) : Bool :=
    match field.after? name with
    | some rest => (Text.stripStart rest).startsWith value
    | none => false
  names "raw:" "Text(" || names "RawTextContent" "\x7b" ||
    names "annotations:" "Some" || names "annotations:" "None" ||
    names "Annotations" "\x7b" || names "audience:" "Some(" ||
    names "priority:" "Some(" || names "meta:" "None"

/-- The start of a text that is the tail of a result block: a closing mark, or a
    text field up to its quote. -/
def debris? (text : Text) : Option Text :=
  match text with
  | c :: _ =>
    if ("\"'),\x7d]" : Text).contains c then some [c]
    else do
      let (gap, rest) := (← text.after? "text:").span Text.isBlank
      if Text.startsWith rest "\"" then return "text:" ++ gap ++ "\"" else none
  | [] => none

end AgentRuns.Line
