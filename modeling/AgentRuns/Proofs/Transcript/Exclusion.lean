import AgentRuns.Proofs.Transcript.NoisyHeadings
import AgentRuns.Proofs.Transcript.Answering

/-!
# Noise in the content of events

Every line is tested for noise before it is kept, and still some noise is told.
The text below a heading is stripped, and blanks at the start of its first line
may have kept that line from being noise. The same holds for the first line of a
thought. Besides, the heading of a call begins with the tool, and the tool may
look like noise where its header did not. There is no other way.
-/

namespace AgentRuns

/-- A line that is noise without the blanks at its start, which kept it from
    being noise in the log. -/
def Uncovered (log : List Line) (line : Line) : Prop :=
  ∃ raw ∈ log, raw.isNoise = false ∧ Line.isNoise (Text.stripStart raw) = true ∧
    (line = Text.stripStart raw ∨ line = Text.strip raw)

/-- How noise comes to stand in an event: as the heading of a call, or as the
    first line of what was stripped. -/
def Slips (log : List Line) (event : Event) (place : Nat) (line : Line) : Prop :=
  (place = 0 ∧ event.kind = .toolCall ∧ ∃ tool, event.tool = some tool ∧ Masquerades tool line) ∨
    place = (if event.kind = .agentThinking then 0 else 1) ∧ Uncovered log line

/-- An event without noise in its content, save for noise that slips in. -/
def Event.Screened (log : List Line) (event : Event) : Prop :=
  ∀ place line, event.content.lines[place]? = some line → line.isNoise = true →
    Slips log event place line

/-- Lines of a log that are no noise. -/
def Kept (log lines : List Line) : Prop := ∀ line ∈ lines, line ∈ log ∧ line.isNoise = false

section

variable {log : List Line} (unbroken : ∀ line ∈ log, CodePoint.char '\n' ∉ line)

/-- A further line of the log that is no noise is kept as well. -/
theorem Kept.append {lines : List Line} (kept : Kept log lines) (line : Line) (inLog : line ∈ log)
    (loud : line.isNoise = false) : Kept log (lines ++ [line]) := by
  intro other member
  rcases List.mem_append.mp member with before | last
  · exact kept other before
  · exact List.mem_singleton.mp last ▸ ⟨inLog, loud⟩

/-- Some of the lines that are kept are kept. -/
theorem Kept.filter {lines : List Line} (kept : Kept log lines) (holds : Line → Bool) :
    Kept log (lines.filter holds) :=
  fun line member => kept line (List.mem_filter.mp member).1

/-- No line that is kept is blank. A blank one would be noise. -/
theorem Kept.notBlank {lines : List Line} (kept : Kept log lines) :
    ∀ line ∈ lines, Text.allBlank line = false := by
  intro line member
  have loud := (kept line member).2
  simp only [Line.isNoise, Bool.or_eq_false_iff] at loud
  exact loud.1.1.1.1

include unbroken in
/-- No line that is kept has a line feed in it, as the lines of a log have none. -/
theorem Kept.whole {lines : List Line} (kept : Kept log lines) :
    ∀ line ∈ lines, CodePoint.char '\n' ∉ line :=
  fun line member => unbroken line (kept line member).1

include unbroken in
/-- Noise in a stripped text of kept lines is its first line, and blanks had
    covered it. -/
theorem uncovered_of_strip (lines : List Line) (kept : Kept log lines) (someLine : lines ≠ [])
    (place : Nat) (line : Line)
    (shown : (Text.lines (Text.strip (Text.unlines lines)))[place]? = some line)
    (noise : line.isNoise = true) : place = 0 ∧ Uncovered log line := by
  obtain ⟨raw, member, same⟩ := Text.line_of_strip lines someLine
    (kept.whole unbroken) kept.notBlank place line shown
  obtain ⟨inLog, loud⟩ := kept raw member
  rcases same with rfl | rfl | ⟨first, rfl | rfl⟩
  · rw [loud] at noise
    cases noise
  · rw [raw.isNoise_of_stripEnd noise] at loud
    cases loud
  · exact ⟨first, raw, inLog, loud, noise, Or.inl rfl⟩
  · have stripped := Line.isNoise_of_stripEnd (Text.stripStart raw) noise
    exact ⟨first, raw, inLog, loud, stripped, Or.inr rfl⟩

include unbroken in
/-- Noise in a heading with its output is the heading, or the first line of the
    output, where blanks had covered it. -/
theorem uncovered_of_output (heading : Text) (output : List Line)
    (single : CodePoint.char '\n' ∉ heading) (kept : Kept log output) (place : Nat) (line : Line)
    (shown : (Text.lines (withOutput heading output))[place]? = some line)
    (noise : line.isNoise = true) :
    place = 0 ∧ line = heading ∨ place = 1 ∧ Uncovered log line := by
  have alone (shown : (Text.lines heading)[place]? = some line) : place = 0 ∧ line = heading := by
    rw [Text.lines_unbroken heading single] at shown
    cases place with
    | zero => exact ⟨rfl, (Option.some.inj shown).symm⟩
    | succ place => cases shown
  unfold withOutput at shown
  dsimp only at shown
  split at shown
  · exact Or.inl (alone shown)
  · rename_i someText
    have someLine : output ≠ [] := by
      apply Text.ne_nil_of_strip_unlines
      rwa [List.isEmpty_iff] at someText
    rw [List.append_assoc, Text.lines_feed, Text.lines_unbroken heading single] at shown
    cases place with
    | zero => exact Or.inl ⟨rfl, (Option.some.inj shown).symm⟩
    | succ place =>
      obtain ⟨first, uncovered⟩ :=
        uncovered_of_strip unbroken output kept someLine place line shown noise
      exact Or.inr ⟨congrArg (· + 1) first, uncovered⟩

/-- An answer changes no content. It sets the result at most. -/
theorem Event.Screened.answered {event : Event} (screened : event.Screened log) (summary : Text) :
    (event.answered summary).Screened log := by
  unfold Event.answered
  split <;> exact screened

/-- An event of one line that is no noise. So no line of it is noise, and nothing slips in. -/
theorem Event.screened_of_loud (event : Event) (single : CodePoint.char '\n' ∉ event.content)
    (loud : Line.isNoise event.content = false) : event.Screened log := by
  intro place line shown noise
  rw [Text.lines_unbroken event.content single] at shown
  cases place with
  | zero =>
    cases shown
    rw [loud] at noise
    cases noise
  | succ place => cases shown

include unbroken in
/-- A command whose line is no noise. Its output was stripped, and this can uncover noise. -/
theorem Event.screened_ofCommand (text : Text) (output : List Line)
    (single : CodePoint.char '\n' ∉ ("$ " ++ text : Text))
    (loud : Line.isNoise ("$ " ++ text) = false) (kept : Kept log output) :
    (Event.ofCommand text output).Screened log := by
  have notThinking : (Event.ofCommand text output).kind ≠ .agentThinking := by
    rcases Event.kind_ofCommand text output with kind | kind <;> simp [kind]
  intro place line shown noise
  rcases uncovered_of_output unbroken _ output single kept place line shown noise with
    ⟨_, rfl⟩ | ⟨below, uncovered⟩
  · rw [loud] at noise
    cases noise
  · exact Or.inr ⟨by rw [if_neg notThinking]; exact below, uncovered⟩

include unbroken in
/-- A thought of kept lines. Its lines were stripped, and some of them were left out. -/
theorem Event.screened_reasoning? (lines : List Line) (event : Event) (kept : Kept log lines)
    (spoken : Event.reasoning? lines = some event) : event.Screened log := by
  obtain ⟨someText, _, rfl⟩ := (reasoning?_eq_some lines event).mp spoken
  have someLine := Text.ne_nil_of_strip_unlines _ someText
  intro place line shown noise
  exact Or.inr (uncovered_of_strip unbroken _ (kept.filter _) someLine place line shown noise)

/-- A call whose parts come from lines that are no noise. -/
structure Call.Screened (log : List Line) (call : Call) : Prop where
  tool : Line.Filled (!Text.isBlank ·) call.tool
  params : Plain call.params
  output : Kept log call.output

include unbroken in
/-- A call whose parts are screened. Its output was stripped, and this can uncover noise. -/
theorem Event.screened_ofCall (call : Call) (screened : call.Screened log) :
    (Event.ofCall call.tool call.extension call.params call.output).Screened log := by
  intro place line shown noise
  have single := callHeading_unbroken call.tool call.params screened.tool.2 screened.params
  rcases uncovered_of_output unbroken _ call.output single screened.output place line shown noise
    with ⟨first, rfl⟩ | ⟨below, uncovered⟩
  · exact Or.inl ⟨first, rfl, call.tool, rfl,
      (isNoise_callHeading call.tool call.params screened.tool screened.params).mp noise⟩
  · exact Or.inr ⟨below, uncovered⟩

/-- An item whose event will be screened. -/
def Stage.Screened (log : List Line) : Stage → Prop
  | .between | .detached _ => True
  | .session provider model => (Event.ofSession provider model).Screened log
  | .command text output | .commandBlock text output _ =>
    CodePoint.char '\n' ∉ ("$ " ++ text : Text) ∧ Line.isNoise ("$ " ++ text) = false ∧
      Kept log output
  | .params call | .body call | .answer call _ => call.Screened log

/-- An assembly whose events, prose and open item are screened. -/
structure Assembly.Screened (log : List Line) (assembly : Assembly) : Prop where
  events : ∀ event ∈ assembly.events, event.Screened log
  thinking : Kept log assembly.thinking
  stage : assembly.stage.Screened log

/-- A line below a command keeps it screened. Noise is passed over where a line of output is
    taken. -/
theorem Stage.screened_commandTakes? (text : Text) (output : List Line) (line : Line)
    (next : Stage) (inLog : line ∈ log) (screened : (Stage.command text output).Screened log)
    (taken : Stage.commandTakes? text output line = some next) : next.Screened log := by
  obtain ⟨single, loud, kept⟩ := screened
  obtain ⟨_, rfl | rfl | ⟨lineLoud, rfl⟩⟩ :=
    Stage.commandTakes_forms text output line next taken
  · exact ⟨single, loud, kept⟩
  · exact ⟨single, loud, kept⟩
  · exact ⟨single, loud, kept.append line inLog lineLoud⟩

/-- A line below a call's parameters keeps it screened. Noise is passed over where a line of
    output is taken. -/
theorem Stage.screened_callTakes? (call : Call) (line : Line) (next : Stage) (inLog : line ∈ log)
    (screened : call.Screened log) (taken : Stage.callTakes? call line = some next) :
    next.Screened log := by
  obtain ⟨_, rfl | rfl | ⟨lineLoud, rfl⟩⟩ := Stage.callTakes_forms call line next taken
  · exact screened
  · exact screened
  · exact ⟨screened.tool, screened.params, screened.output.append line inLog lineLoud⟩

/-- A parameter whose line is no noise is plain. One of the same name that came before is
    replaced. -/
theorem Plain.put {params : Table Text} (plain : Plain params) (line : Line) (key value : Text)
    (loud : line.isNoise = false) (found : line.parameter? = some (key, value)) :
    Plain (params.put key value) := by
  obtain ⟨rest, form, _, ⟨_, filled⟩, _⟩ := (Line.parameter?_eq_some line key value).mp found
  have valueUnbroken : CodePoint.char '\n' ∉ value := by
    intro feed
    exact absurd (filled _ feed) (by decide)
  have valueSilent : value.includes Line.notice = false := by
    rw [form, ← List.append_assoc] at loud
    exact Line.silent_of_loud _ value rest loud
  constructor
  · intro other written there
    rw [Table.get?_put] at there
    split at there
    · cases there
      exact valueUnbroken
    · exact plain.unbroken other written there
  · intro other written there
    rw [Table.get?_put] at there
    split at there
    · cases there
      exact valueSilent
    · exact plain.silent other written there

/-- A line that belongs to the open item keeps it screened. There is one case for each stage. -/
theorem Stage.screened_takes? (stage next : Stage) (line : Line) (inLog : line ∈ log)
    (screened : stage.Screened log) (taken : stage.takes? line = some next) :
    next.Screened log := by
  cases stage.takes_of_takes? next line taken with
  | detail | noise | commandBlock | answer => exact screened
  | detached => trivial
  | command text output _ below =>
    exact screened_commandTakes? text output line next inLog screened below
  | behindBlock text output _ _ _ below =>
    exact screened_commandTakes? text output line next inLog screened below
  | param call key value loud found =>
    exact ⟨screened.tool, screened.params.put line key value loud found, screened.output⟩
  | behindParams call _ below | body call _ below =>
    exact screened_callTakes? call line next inLog screened below

namespace Assembly

/-- One more screened event keeps an assembly screened. -/
theorem Screened.emit {assembly : Assembly} (screened : assembly.Screened log) (event : Event)
    (new : event.Screened log) : (assembly.emit event).Screened log where
  events := by
    intro other member
    rcases List.mem_append.mp member with before | last
    · exact screened.events other before
    · exact List.mem_singleton.mp last ▸ new
  thinking := screened.thinking
  stage := screened.stage

include unbroken in
/-- A screened call that is told keeps an assembly screened. -/
theorem Screened.announce {assembly : Assembly} (screened : assembly.Screened log) (call : Call)
    (callScreened : call.Screened log) : (assembly.announce call).Screened log := by
  have emitted := screened.emit _ (Event.screened_ofCall unbroken call callScreened)
  unfold Assembly.announce
  dsimp only
  split
  · exact ⟨emitted.events, emitted.thinking, emitted.stage⟩
  · exact emitted

include unbroken in
/-- Telling the gathered prose keeps an assembly screened, since its lines are kept. -/
theorem Screened.flush {assembly : Assembly} (screened : assembly.Screened log) :
    assembly.flush.Screened log := by
  have none : Kept log [] := fun _ member => by cases member
  unfold Assembly.flush
  cases spoken : Event.reasoning? assembly.thinking with
  | none => exact ⟨screened.events, none, screened.stage⟩
  | some event =>
    have emitted := screened.emit event
      (Event.screened_reasoning? unbroken assembly.thinking event screened.thinking spoken)
    exact ⟨emitted.events, none, emitted.stage⟩

/-- An answer changes no content. So it keeps an assembly screened. -/
theorem Screened.resolve {assembly : Assembly} (screened : assembly.Screened log)
    (summary : Text) : (assembly.resolve summary).Screened log := by
  cases line : assembly.pending with
  | nil =>
    have unchanged : assembly.resolve summary = assembly := by simp [Assembly.resolve, line]
    rwa [unchanged]
  | cons call later =>
    rw [assembly.resolve_eq summary call later line]
    refine ⟨?_, screened.thinking, screened.stage⟩
    intro event member
    obtain ⟨place, found⟩ := List.mem_iff_getElem?.mp member
    rw [List.getElem?_modify] at found
    obtain ⟨before, stands, same⟩ := Option.map_eq_some_iff.mp found
    have beforeScreened := screened.events before (List.mem_of_getElem? stands)
    split at same
    · exact same ▸ beforeScreened.answered summary
    · exact same ▸ beforeScreened

include unbroken in
/-- Telling the open item keeps an assembly screened. There is one case for each stage. -/
theorem Screened.told {assembly : Assembly} (screened : assembly.Screened log) :
    assembly.told.Screened log := by
  obtain ⟨events, thinking, pending, stage⟩ := assembly
  have idle : Screened log ⟨events, thinking, pending, .between⟩ :=
    ⟨screened.events, screened.thinking, trivial⟩
  cases stage with
  | between | detached => exact idle
  | session provider model => exact idle.emit _ screened.stage
  | command text output | commandBlock text output =>
    obtain ⟨single, loud, kept⟩ := screened.stage
    exact idle.emit _ (Event.screened_ofCommand unbroken text output single loud kept)
  | params call | body call | answer call => exact idle.announce unbroken call screened.stage

include unbroken in
/-- Settling keeps an assembly screened. It tells the open item and may answer a call. -/
theorem Screened.settle [NestingLimits] {assembly settled : Assembly}
    (screened : assembly.Screened log) (done : assembly.settle = .ok settled) :
    settled.Screened log := by
  rcases assembly.settle_cases settled done with rfl | ⟨summary, rfl⟩
  · exact screened.told unbroken
  · exact (screened.told unbroken).resolve summary

include unbroken in
/-- A line between items keeps an assembly screened. It is noise, or it begins what it begins
    with a line that is none. -/
theorem Screened.start {assembly : Assembly} (screened : assembly.Screened log) (line : Line)
    (inLog : line ∈ log) : (assembly.start line).Screened log := by
  have flushed := screened.flush unbroken
  rw [start_eq]
  cases begins : line.heading? with
  | some heading =>
    obtain ⟨loud, _⟩ := line.plain_of_heading? heading begins
    have recognized := line.begins_of_heading? heading begins
    have none : Kept log [] := fun _ member => by cases member
    cases heading with
    | call tool extension =>
      obtain ⟨_, _, _, toolFilled, _⟩ :=
        (Line.toolHeader?_eq_some line tool extension).mp recognized
      exact ⟨flushed.events, flushed.thinking, ⟨toolFilled, Plain.nil, none⟩⟩
    | command text =>
      have whole := line.eq_of_command? text (unbroken line inLog) recognized
      exact ⟨flushed.events, flushed.thinking, whole ▸ unbroken line inLog, whole ▸ loud, none⟩
    | session provider model =>
      have single := line.unbroken_ofSession provider model recognized
      exact ⟨flushed.events, flushed.thinking, Event.screened_of_loud _ single
        (line.isNoise_ofSession provider model recognized loud)⟩
    | run header =>
      subst recognized
      exact flushed.emit _ (Event.screened_of_loud _ (unbroken header inLog) loud)
  | none =>
    dsimp only
    split
    · exact screened
    · rename_i loud
      split
      · exact ⟨screened.events, screened.thinking, trivial⟩
      · exact ⟨screened.events,
          screened.thinking.append line inLog (Bool.eq_false_iff.mpr loud), screened.stage⟩

include unbroken in
/-- Every line keeps an assembly screened. It belongs to the open item, or it settles it and
    is read as one between items. -/
theorem Screened.feed [NestingLimits] {assembly fed : Assembly} (screened : assembly.Screened log)
    (line : Line) (inLog : line ∈ log) (done : assembly.feed line = .ok fed) :
    fed.Screened log := by
  rcases assembly.feed_cases fed line done with ⟨stage, taken, rfl⟩ | ⟨_, settled, settles, rfl⟩
  · exact ⟨screened.events, screened.thinking,
      assembly.stage.screened_takes? stage line inLog screened.stage taken⟩
  · exact (screened.settle unbroken settles).start unbroken line inLog

include unbroken in
/-- Every reading of lines of the log keeps an assembly screened. The induction is on the
    lines, one step for each. -/
theorem Screened.fold [NestingLimits] {assembly final : Assembly} (screened : assembly.Screened log)
    (lines : List Line) (inLog : ∀ line ∈ lines, line ∈ log)
    (done : lines.foldlM Assembly.feed assembly = .ok final) : final.Screened log := by
  induction lines generalizing assembly with
  | nil =>
    cases done
    exact screened
  | cons line rest inductionHypothesis =>
    obtain ⟨next, step, others⟩ := ok_of_foldlM Assembly.feed line rest assembly final done
    have further := screened.feed unbroken line (inLog line List.mem_cons_self) step
    exact inductionHypothesis further (fun other member =>
      inLog other (List.mem_cons_of_mem line member)) others

/-- Nothing is told before the first line. -/
theorem Screened.unread : Screened log {} where
  events := fun _ member => absurd member List.not_mem_nil
  thinking := fun _ member => absurd member List.not_mem_nil
  stage := trivial

include unbroken in
/-- The events of a log are screened. They are those of the last assembly with its open item
    and its prose told. -/
theorem screened_ofLines [NestingLimits] (events : List Event)
    (assembled : ofLines log = .ok events) :
    ∀ event ∈ events, event.Screened log := by
  obtain ⟨state, settled, fed, done, rfl⟩ := (ofLines_eq_ok log events).mp assembled
  have read := Screened.unread.fold unbroken log (fun _ member => member) fed
  exact ((read.settle unbroken done).flush unbroken).events

end Assembly

end

/-- An event that is placed from a position on is one of the events, with a place
    and a share. -/
theorem Event.mem_placeFrom (tenths : Nat → Nat → Nat) (total position seen : Nat)
    (events : List Event) (placed : Event)
    (member : placed ∈ placeFrom tenths total position seen events) :
    ∃ event ∈ events, ∃ index progress, placed = { event with index, progress } := by
  induction events generalizing position seen with
  | nil => cases member
  | cons event rest inductionHypothesis =>
    rcases List.mem_cons.mp member with rfl | later
    · exact ⟨event, List.mem_cons_self, _, _, rfl⟩
    · obtain ⟨other, inRest, same⟩ := inductionHypothesis _ _ later
      exact ⟨other, List.mem_cons_of_mem event inRest, same⟩

/-- Noise does not come to stand in the content of an event, save in two ways.

Either it is the heading of a call whose tool looks like noise, or it is the
first line of the output or of the thought, and a line of the log that is no
noise has it behind blanks. Lines below it are no noise in any event. -/
theorem noise_slips_in [NestingLimits] (log : Text) (events : List Event)
    (told : Transcript.events log = .ok events) (event : Event) (member : event ∈ events)
    (place : Nat) (line : Line) (shown : event.content.lines[place]? = some line)
    (noise : line.isNoise = true) : Slips log.lines event place line := by
  obtain ⟨assembled, ofLines, rfl⟩ := ok_of_map (Assembly.ofLines log.lines) Event.place events told
  obtain ⟨original, there, index, progress, rfl⟩ :=
    Event.mem_placeFrom roundedTenths _ 0 0 assembled event member
  exact Assembly.screened_ofLines (Text.unbroken_of_mem_lines log) assembled ofLines original there
    place line shown noise

namespace IndentedNoise

/-- A command with noise in its output that is indented. -/
def log : Text := Text.unlines ["$ ls", "  --- loading .bash_profile"]

/-- The event that is told of it. -/
def event : Event :=
  { kind := .shellCommand
    content := Text.unlines ["$ ls", "--- loading .bash_profile"]
    command := some ("ls" : Text) }

end IndentedNoise

/-- Blanks keep the line from being dropped as noise, and it is shown without
    them. -/
theorem indented_noise_is_shown :
    Transcript.events IndentedNoise.log = .ok [IndentedNoise.event] ∧
      IndentedNoise.event.content.lines.map Line.isNoise = [false, true] :=
  ⟨by decide +kernel, by decide +kernel⟩

/-- The noise that is shown was covered by blanks. Stripping the output has uncovered it. -/
theorem indented_noise_slips_in :
    Slips IndentedNoise.log.lines IndentedNoise.event 1 "--- loading .bash_profile" :=
  noise_slips_in IndentedNoise.log [IndentedNoise.event] (by decide +kernel)
    IndentedNoise.event List.mem_cons_self 1 _ (by decide +kernel) (by decide +kernel)

end AgentRuns
