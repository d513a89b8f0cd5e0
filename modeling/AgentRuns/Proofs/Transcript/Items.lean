import AgentRuns.Proofs.Table
import AgentRuns.Proofs.Transcript.Answering
import Mathlib.Data.List.Chain

/-!
# Items and how they are written

A transcript is a sequence of items: run headers, sessions, commands, calls and
thoughts. Each is written as lines, the heading first. What stands below a
heading is told from what follows by the shape of the lines alone, so an item is
proper only if its lines keep to their shapes: output and thoughts look like no
other line, and are not indented or blank at their ends.

A proper item is read back whole, whatever was read before it, as long as the
line behind it ends it. Every heading does. A thought is not set off by anything
and can stand only where the item before it takes no more prose: behind a run
header, a session, and a call with a block.
-/

namespace AgentRuns

/-- A call as it is written: its rule is that many characters longer than one. -/
structure WrittenCall where
  tool : Text
  extension : Text
  rule : Nat := 0
  params : Table Text := []
  output : List Line := []
  block? : Option ClosedBlock := none

/-- An item of a transcript. -/
inductive Item
  | run (name id : Text)
  | session (provider model : Text) (details : List Line)
  | command (command : Text) (output : List Line)
  | call (call : WrittenCall)
  | thought (lines : List Line)

namespace Line

/-- The header of a run. -/
def ofRun (name id : Text) : Line := name ++ (" run " ++ id)

/-- The line of a session. -/
def ofSession (provider model : Text) : Line :=
  "starting session | provider: " ++ (provider ++ (" model: " ++ model))

/-- The line of a command. -/
def ofCommand (command : Text) : Line := "$ " ++ command

/-- The header of a call. -/
def ofCall (tool extension : Text) (rule : Nat) : Line :=
  "─── " ++ (tool ++ (" | " ++ (extension ++
    (" " ++ List.replicate (rule + 1) (CodePoint.char '─')))))

/-- The line of a parameter. -/
def ofParameter (parameter : Text × Text) : Line := parameter.1 ++ (": " ++ parameter.2)

/-- Whether the line begins no item, opens no block and is no noise. -/
def isPlain (line : Line) : Bool := !line.isStructural && !line.opensBlock && !line.isNoise

end Line

/-- Lines below a heading that look like no other line and have no blanks around
    them. -/
structure Prose (lines : List Line) : Prop where
  plain : ∀ line ∈ lines, line.isPlain = true
  trimmed : Text.strip (Text.unlines lines) = Text.unlines lines

namespace WrittenCall

/-- The lines of the call, its block last. -/
def lines (call : WrittenCall) : List Line :=
  Line.ofCall call.tool call.extension call.rule ::
    (call.params.map Line.ofParameter ++
      (call.output ++ (call.block?.map ClosedBlock.lines).getD []))

/-- The call as it is read. -/
def read (call : WrittenCall) : Call :=
  { tool := call.tool
    extension := call.extension
    params := call.params
    output := call.output }

/-- The event of the call. -/
def event (call : WrittenCall) (result : Option Text) : Event :=
  { kind := .toolCall
    tool := some call.tool
    extension := some call.extension
    params := some call.params
    result := result
    content := Text.unlines (callHeading call.tool call.params :: call.output) }

/-- A call whose lines keep to their shapes. -/
structure Proper (call : WrittenCall) : Prop where
  tool : Line.Filled (!Text.isBlank ·) call.tool
  extension : Line.Filled (!Text.isBlank ·) call.extension
  keys : ∀ parameter ∈ call.params,
    Line.Filled (fun c => c.within 'a' 'z' || c == '_') parameter.1
  values : ∀ parameter ∈ call.params, Line.Filled (fun c => c != '\n') parameter.2
  loud : ∀ parameter ∈ call.params, (Line.ofParameter parameter).isNoise = false
  distinct : (call.params.map Prod.fst).Nodup
  output : Prose call.output
  apart : ∀ line, call.output.head? = some line → line.parameter? = none

end WrittenCall

namespace Item

/-- The lines of the item. -/
def lines : Item → List Line
  | .run name id => [Line.ofRun name id]
  | .session provider model details => Line.ofSession provider model :: details
  | .command text output => Line.ofCommand text :: output
  | .call written => written.lines
  | .thought lines => lines

/-- The event of the item; only a call has a result. -/
def event (item : Item) (result : Option Text) : Event :=
  match item with
  | .run name id => { kind := .info, content := Line.ofRun name id }
  | .session provider model _ =>
    { kind := .sessionStart
      provider := some provider
      model := some model
      content := "Session started with " ++ provider ++ " / " ++ model }
  | .command text output =>
    { kind := if (phase? text).isSome then .phaseMarker else .shellCommand
      command := some text
      phase := phase? text
      content := Text.unlines (("$ " ++ text) :: output) }
  | .call written => written.event result
  | .thought lines => { kind := .agentThinking, content := Text.unlines lines }

/-- An item whose lines keep to their shapes. -/
def Proper : Item → Prop
  | .run name id =>
    Line.Filled Text.isWord name ∧ Line.Filled (fun c => Text.isWord c || c == '-') id ∧
      (Line.ofRun name id).isNoise = false
  | .session provider model details =>
    Line.Filled (!Text.isBlank ·) provider ∧ Line.Filled (fun c => c != '\n') model ∧
      (Line.ofSession provider model).isNoise = false ∧
      ∀ detail ∈ details, (detail.sessionDetail?).isSome = true
  | .command text output =>
    Line.Filled (fun c => c != '\n') text ∧ (Line.ofCommand text).isNoise = false ∧
      Prose output
  | .call written => written.Proper
  | .thought lines =>
    lines ≠ [] ∧ Prose lines ∧ (∀ line ∈ lines, line.leaksBlock = false) ∧
      Line.debris? (Text.unlines lines) = none

/-- Whether the item is a thought. -/
def isThought : Item → Bool
  | .thought _ => true
  | _ => false

/-- Whether a thought can stand behind the item: the item takes no more prose. -/
def admitsThought : Item → Bool
  | .run .. | .session .. => true
  | .call written => written.block?.isSome
  | .command .. | .thought _ => false

/-- What begins the item, if it is no thought. -/
def heading? : Item → Option Heading
  | .run name id => some (.run (Line.ofRun name id))
  | .session provider model _ => some (.session provider model)
  | .command text _ => some (.command text)
  | .call written => some (.call written.tool written.extension)
  | .thought _ => none

end Item

/-- A sequence of proper items without line feeds inside a line, and with
    thoughts only first or where the item before admits them. -/
structure Written (items : List Item) : Prop where
  proper : ∀ item ∈ items, item.Proper
  unbroken : ∀ item ∈ items, ∀ line ∈ item.lines, CodePoint.char '\n' ∉ line
  placed : items.IsChain fun item next => next.isThought = true → item.admitsThought = true

/-- A text without blanks around it does not begin with one. -/
theorem Text.isBlank_of_trimmed (c : CodePoint) (rest : Text)
    (trimmed : Text.strip (c :: rest) = c :: rest) : Text.isBlank c = false := by
  rw [Bool.eq_false_iff]
  intro blank
  have start : Text.stripStart (c :: rest) = Text.stripStart rest := by
    simp [Text.stripStart, blank]
  have shorter : (Text.stripStart rest).length ≤ rest.length :=
    (List.dropWhile_suffix Text.isBlank).length_le
  have ending (text : Text) : (Text.stripEnd text).length ≤ text.length := by
    have dropped := (List.dropWhile_suffix Text.isBlank (l := text.reverse)).length_le
    simpa [Text.stripEnd] using dropped
  have whole := congrArg List.length trimmed
  rw [Text.strip, start, List.length_cons] at whole
  have stripped := ending (Text.stripStart rest)
  omega

/-- Lines begin as the first of them does, unless it is empty. -/
theorem Text.unlines_head (c : CodePoint) (rest : Line) (more : List Line) :
    ∃ tail, Text.unlines ((c :: rest) :: more) = c :: tail := by
  cases more with
  | nil => exact ⟨rest, by simp [Text.unlines]⟩
  | cons line more =>
    refine ⟨rest ++ ([CodePoint.char '\n'] ++ Text.unlines (line :: more)), ?_⟩
    simp [Text.unlines, List.intercalate_cons_cons]

namespace Line

/-- What a plain line is not. -/
theorem isPlain_iff (line : Line) : line.isPlain = true ↔
    line.isStructural = false ∧ line.opensBlock = false ∧ line.isNoise = false := by
  simp [isPlain, and_assoc]

/-- A plain line has no heading, since it begins no item. -/
theorem heading?_of_isPlain (line : Line) (plain : line.isPlain = true) : line.heading? = none :=
  line.heading?_of_isStructural (line.isPlain_iff.mp plain).1

/-- The written header of a run has the heading of the run. -/
theorem heading?_ofRun (name id : Text) (nameFilled : Filled Text.isWord name)
    (idFilled : Filled (fun c => Text.isWord c || c == '-') id)
    (loud : (ofRun name id).isNoise = false) :
    (ofRun name id).heading? = some (.run (ofRun name id)) := by
  refine heading?_of_runHeader? _ id ?_ loud
  rw [runHeader?_eq_some]
  exact ⟨name, [], by simp [ofRun], nameFilled, idFilled, rfl⟩

/-- The written line of a session has the heading of the session. -/
theorem heading?_ofSession (provider model : Text)
    (providerFilled : Filled (!Text.isBlank ·) provider)
    (modelFilled : Filled (fun c => c != '\n') model)
    (loud : (ofSession provider model).isNoise = false) :
    (ofSession provider model).heading? = some (.session provider model) := by
  refine heading?_of_session? _ provider model ?_ loud
  rw [session?_eq_some]
  exact ⟨[], by simp [ofSession], providerFilled, modelFilled, rfl⟩

/-- The written line of a command has the heading of the command. -/
theorem heading?_ofCommand (text : Text) (filled : Filled (fun c => c != '\n') text)
    (loud : (ofCommand text).isNoise = false) :
    (ofCommand text).heading? = some (.command text) := by
  refine heading?_of_command? _ text ?_ loud
  rw [command?_eq_some]
  exact ⟨[], by simp [ofCommand], filled, rfl⟩

/-- The written header of a call has the heading of the call, however long its rule is. It is
    never noise. -/
theorem heading?_ofCall (tool extension : Text) (rule : Nat)
    (toolFilled : Filled (!Text.isBlank ·) tool)
    (extensionFilled : Filled (!Text.isBlank ·) extension) :
    (ofCall tool extension rule).heading? = some (.call tool extension) := by
  refine heading?_of_toolHeader? _ tool extension ?_
  rw [toolHeader?_eq_some]
  refine ⟨List.replicate (rule + 1) (.char '─'), [], by simp [ofCall], toolFilled,
    extensionFilled, ⟨by simp, ?_⟩, rfl⟩
  intro c member
  rw [List.eq_of_mem_replicate member]
  rfl

/-- The written line of a parameter is read as the parameter. -/
theorem parameter?_ofParameter (parameter : Text × Text)
    (keyFilled : Filled (fun c => c.within 'a' 'z' || c == '_') parameter.1)
    (valueFilled : Filled (fun c => c != '\n') parameter.2) :
    (ofParameter parameter).parameter? = some parameter := by
  rw [parameter?_eq_some]
  exact ⟨[], by simp [ofParameter], keyFilled, valueFilled, rfl⟩

end Line

/-- The output of a call begins below its parameters with a plain line that is no
    parameter. -/
theorem Stage.takes?_output (call : Call) (line : Line) (plain : line.isPlain = true)
    (apart : line.parameter? = none) :
    (Stage.params call).takes? line =
      some (.body { call with output := call.output ++ [line] }) := by
  obtain ⟨inner, notOpening, loud⟩ := line.isPlain_iff.mp plain
  simp [takes?, callTakes?, inner, notOpening, loud, apart]

namespace Item

/-- A proper item has a first line. It is the item's heading, or plain and not
    indented where the item is a thought. -/
theorem lines_cons (item : Item) (proper : item.Proper) :
    ∃ first more, item.lines = first :: more ∧ first.heading? = item.heading? ∧
      (item.isThought = true → first.isPlain = true ∧ first.sessionDetail? = none) := by
  cases item with
  | run name id =>
    obtain ⟨nameFilled, idFilled, loud⟩ := proper
    exact ⟨_, _, rfl, Line.heading?_ofRun name id nameFilled idFilled loud, by simp [isThought]⟩
  | session provider model details =>
    obtain ⟨providerFilled, modelFilled, loud, _⟩ := proper
    exact ⟨_, _, rfl, Line.heading?_ofSession provider model providerFilled modelFilled loud,
      by simp [isThought]⟩
  | command text output =>
    obtain ⟨filled, loud, _⟩ := proper
    exact ⟨_, _, rfl, Line.heading?_ofCommand text filled loud, by simp [isThought]⟩
  | call written =>
    exact ⟨_, _, rfl, Line.heading?_ofCall _ _ written.rule proper.tool proper.extension,
      by simp [isThought]⟩
  | thought lines =>
    obtain ⟨someLine, prose, _⟩ := proper
    obtain ⟨first, more, rfl⟩ := List.exists_cons_of_ne_nil someLine
    have plain := prose.plain first List.mem_cons_self
    refine ⟨first, more, rfl, first.heading?_of_isPlain plain, fun _ => ⟨plain, ?_⟩⟩
    cases detail : first.sessionDetail? with
    | none => rfl
    | some label =>
      obtain ⟨c, rest, rfl, blank⟩ := Line.blank_of_sessionDetail? first label detail
      obtain ⟨tail, begins⟩ := Text.unlines_head c rest more
      have trimmed := prose.trimmed
      rw [begins] at trimmed
      rw [Text.isBlank_of_trimmed c tail trimmed] at blank
      cases blank

end Item

end AgentRuns
