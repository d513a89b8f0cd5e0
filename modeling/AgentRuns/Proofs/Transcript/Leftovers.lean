import AgentRuns.Proofs.Event.Progress
import AgentRuns.Proofs.Transcript.Exclusion
import AgentRuns.Proofs.Transcript.Growth
import AgentRuns.Proofs.Transcript.Headings
import AgentRuns.Proofs.Transcript.Internals
import AgentRuns.Proofs.Transcript.Items

/-!
# Leftovers of blocks in captured output

Output is captured line by line: below a command or a call every line is output
that begins no item, opens no block and is no noise, unless a block takes it in
or it is still a parameter. Nobody asks whether it is an inner field of a block,
as it is asked of prose. So what is left of a block that a header cut short is
shown as output of the item that the header begins.

The account is exact. The inner fields that events show below their headings are
those among the lines of output, one for one and in order, without the blanks
around them.
-/

namespace AgentRuns

/-- The inner fields of blocks among lines, without the blanks around them. -/
def Line.leaked (lines : List Line) : List Line := (lines.filter leaksBlock).map Text.strip

/-- Whether events of this kind show captured output below their headings. -/
def EventKind.showsOutput : EventKind → Bool
  | .toolCall | .shellCommand | .phaseMarker => true
  | .sessionStart | .agentThinking | .info => false

/-- The inner fields of blocks that an event shows below its heading. -/
def Event.leaked (event : Event) : List Line :=
  if event.kind.showsOutput then Line.leaked (event.content.lines.drop 1) else []

namespace Line

/-- The inner fields of lines are those of their parts, one behind the other. -/
theorem leaked_append (lines more : List Line) :
    leaked (lines ++ more) = leaked lines ++ leaked more := by
  simp [leaked]

/-- Lines have no inner fields exactly if none of them is one. -/
theorem leaked_eq_nil (lines : List Line) :
    leaked lines = [] ↔ ∀ line ∈ lines, line.leaksBlock = false := by
  simp [leaked]

/-- Inner fields are the same with and without blanks around the lines. So it does not matter
    whether lines are stripped before the test. -/
theorem leaked_eq (lines : List Line) :
    leaked lines = (lines.map Text.strip).filter leaksBlock := by
  rw [leaked, List.filter_map]
  congr 1
  exact List.filter_congr fun line _ => (leaksBlock_strip line).symm

/-- Below a heading stand the inner fields of the output. Stripping the output takes blanks
    away and no field. -/
theorem leaked_withOutput (heading : Text) (output : List Line)
    (single : CodePoint.char '\n' ∉ heading)
    (unbroken : ∀ line ∈ output, CodePoint.char '\n' ∉ line)
    (notBlank : ∀ line ∈ output, Text.allBlank line = false) :
    leaked ((withOutput heading output).lines.drop 1) = leaked output := by
  cases output with
  | nil =>
    have alone : withOutput heading [] = heading := rfl
    rw [alone, Text.lines_unbroken heading single]
    rfl
  | cons first rest =>
    have shown : (Text.strip (Text.unlines (first :: rest))).isEmpty = false := by
      rw [List.isEmpty_eq_false_iff, ne_eq, Text.strip_eq_nil,
        Text.allBlank_unlines first rest (notBlank first List.mem_cons_self)]
      exact Bool.false_ne_true
    have whole : (withOutput heading (first :: rest)).lines =
        heading :: Text.lines (Text.strip (Text.unlines (first :: rest))) := by
      simp only [withOutput, shown, Bool.false_eq_true, if_false]
      rw [List.append_assoc, Text.lines_feed, Text.lines_unbroken heading single]
      rfl
    rw [whole, List.drop_one, List.tail_cons, leaked_eq, leaked_eq,
      Text.map_strip_lines_strip _ (List.cons_ne_nil first rest) unbroken notBlank]

end Line

namespace Stage

/-- Whether a line becomes output of the open item. -/
def keeps (stage : Stage) (line : Line) : Bool :=
  match stage with
  | .command _ _ | .body _ => line.isPlain
  | .commandBlock _ _ block => !block.takes line && line.isPlain
  | .params _ => line.isPlain && line.parameter?.isNone
  | .between | .session _ _ | .answer _ _ | .detached _ => false

/-- The lines that become output when they are read from a stage on. -/
def kept (stage : Stage) : List Line → List Line
  | [] => []
  | line :: rest =>
    if stage.keeps line then line :: (stage.next line).kept rest
    else (stage.next line).kept rest

/-- The output of the open item so far. -/
def output : Stage → List Line
  | .command _ output | .commandBlock _ output _ => output
  | .params call | .body call | .answer call _ => call.output
  | .between | .session _ _ | .detached _ => []

/-- Of the lines below a heading the plain ones become output. Commands and calls have this
    walk through the tests in common. -/
theorem output_below (opened silent longer next : Stage) (output : List Line) (line : Line)
    (taken : (if line.isStructural then none else if line.opensBlock then some opened
      else if line.isNoise then some silent else some longer) = some next)
    (openedOutput : opened.output = output) (silentOutput : silent.output = output)
    (longerOutput : longer.output = output ++ [line]) :
    next.output = output ++ if line.isPlain then [line] else [] := by
  by_cases inner : line.isStructural = true
  · simp [inner] at taken
  by_cases opens : line.opensBlock = true
  · simp only [inner, opens, Bool.false_eq_true, if_false, if_true, Option.some.injEq] at taken
    simp [← taken, openedOutput, Line.isPlain, opens]
  by_cases noise : line.isNoise = true
  · simp only [inner, opens, noise, Bool.false_eq_true, if_false, if_true,
      Option.some.injEq] at taken
    simp [← taken, silentOutput, Line.isPlain, noise]
  · simp only [inner, opens, noise, Bool.false_eq_true, if_false, Option.some.injEq] at taken
    simp [← taken, longerOutput, Line.isPlain, inner, opens, noise]

/-- Of the lines below a command the plain ones become its output. -/
theorem commandTakes_output (text : Text) (output : List Line) (line : Line) (next : Stage)
    (taken : commandTakes? text output line = some next) :
    next.output = output ++ if line.isPlain then [line] else [] :=
  output_below _ _ _ next output line taken rfl rfl rfl

/-- Of the lines below a call the plain ones become its output. -/
theorem callTakes_output (call : Call) (line : Line) (next : Stage)
    (taken : callTakes? call line = some next) :
    next.output = call.output ++ if line.isPlain then [line] else [] :=
  output_below _ _ _ next call.output line taken rfl rfl rfl

/-- A line of the open item is added to its output if the item keeps it. There is one case for
    each stage. -/
theorem output_takes (stage next : Stage) (line : Line) (taken : stage.takes? line = some next) :
    next.output = stage.output ++ if stage.keeps line then [line] else [] := by
  cases stage with
  | between => cases taken
  | session _ _ | answer _ _ | detached _ =>
    simp only [takes?] at taken
    split at taken
    · cases taken
      simp [keeps, Stage.output]
    · cases taken
  | command text output => exact commandTakes_output text output line next taken
  | commandBlock text output block =>
    simp only [takes?] at taken
    split at taken
    · rename_i takes
      cases taken
      simp [keeps, Stage.output, takes]
    · rename_i refuses
      simpa [keeps, refuses, Stage.output] using commandTakes_output text output line next taken
  | params call =>
    simp only [takes?] at taken
    split at taken
    · rename_i noise
      cases taken
      simp [keeps, Stage.output, Line.isPlain, noise]
    · split at taken
      · rename_i found
        cases taken
        simp [keeps, Stage.output, found]
      · rename_i apart
        simpa [keeps, apart, Stage.output] using callTakes_output call line next taken
  | body call => exact callTakes_output call line next taken

/-- A line that does not belong to the open item is none of its output. A line that the item
    keeps would belong to it. -/
theorem keeps_of_refused (stage : Stage) (line : Line) (refused : stage.takes? line = none) :
    stage.keeps line = false := by
  rw [Bool.eq_false_iff]
  intro keeps
  cases stage with
  | between | session | answer | detached => cases keeps
  | command | body =>
    obtain ⟨inner, notOpening, loud⟩ := line.isPlain_iff.mp keeps
    simp [takes?, commandTakes?, callTakes?, inner, notOpening, loud] at refused
  | commandBlock text output block =>
    simp only [Stage.keeps, Bool.and_eq_true, Bool.not_eq_true'] at keeps
    obtain ⟨inner, notOpening, loud⟩ := line.isPlain_iff.mp keeps.2
    simp [takes?, commandTakes?, keeps.1, inner, notOpening, loud] at refused
  | params call =>
    simp only [Stage.keeps, Bool.and_eq_true, Option.isNone_iff_eq_none] at keeps
    obtain ⟨inner, notOpening, loud⟩ := line.isPlain_iff.mp keeps.1
    simp [takes?, callTakes?, keeps.2, inner, notOpening, loud] at refused

variable {log : List Line} (unbroken : ∀ line ∈ log, CodePoint.char '\n' ∉ line)

include unbroken in
/-- The event of the open item shows the inner fields of its output. Its heading is one line,
    so nothing of the output goes into it. -/
theorem leaked_event? (stage : Stage) (screened : stage.Screened log) :
    stage.event?.toList.flatMap Event.leaked = Line.leaked stage.output := by
  cases stage with
  | between | session | detached => rfl
  | command text output | commandBlock text output block =>
    obtain ⟨single, _, kept⟩ := screened
    have shows' : (Event.ofCommand text output).kind.showsOutput = true := by
      rcases Event.kind_ofCommand text output with kind | kind <;> rw [kind] <;> rfl
    have below := Line.leaked_withOutput ("$ " ++ text) output single (kept.whole unbroken)
      kept.notBlank
    have content : (Event.ofCommand text output).content = withOutput ("$ " ++ text) output := rfl
    simpa [event?, Event.leaked, shows', content, Stage.output] using below
  | params call | body call | answer call block =>
    have single := callHeading_unbroken call.tool call.params screened.tool.2 screened.params
    have below := Line.leaked_withOutput (callHeading call.tool call.params) call.output single
      (screened.output.whole unbroken) screened.output.notBlank
    simpa [event?, Event.leaked, Event.ofCall, EventKind.showsOutput, Stage.output] using below

end Stage

namespace Assembly

/-- The inner fields that the events told so far show, and those in the output of
    the open item. -/
def leaked (assembly : Assembly) : List Line :=
  assembly.events.flatMap Event.leaked ++ Line.leaked assembly.stage.output

/-- Prose shows no output. Inner fields are filtered out of it, and it has no heading to stand
    below. -/
theorem leaked_flush (assembly : Assembly) :
    assembly.flush.events.flatMap Event.leaked = assembly.events.flatMap Event.leaked := by
  rw [flush_events, List.flatMap_append]
  cases spoken : Event.reasoning? assembly.thinking with
  | none => exact List.append_nil _
  | some thought =>
    obtain ⟨_, _, rfl⟩ := (Event.reasoning?_eq_some _ thought).mp spoken
    simp [Event.leaked, EventKind.showsOutput]

/-- A line between items shows no output. The item that it begins has none yet. -/
theorem leaked_start (assembly : Assembly) (line : Line) (idle : assembly.stage = .between) :
    (assembly.start line).leaked = assembly.events.flatMap Event.leaked := by
  have nothing : Line.leaked [] = [] := rfl
  rw [start_eq]
  cases line.heading? with
  | some heading =>
    cases heading with
    | run header =>
      have silent : Event.leaked { kind := .info, content := header } = [] := rfl
      simp [leaked, begin, emit, idle, Stage.output, leaked_flush, silent, nothing]
    | call | command | session =>
      simp [leaked, begin, Stage.output, leaked_flush, nothing]
  | none =>
    dsimp only
    split
    · simp [leaked, idle, Stage.output, nothing]
    · split <;> simp [leaked, idle, Stage.output, nothing]

variable {log : List Line} (unbroken : ∀ line ∈ log, CodePoint.char '\n' ∉ line)

include unbroken

/-- Settling shows the output of the open item. An answer changes no content. -/
theorem leaked_settle [NestingLimits] (assembly settled : Assembly)
    (screened : assembly.Screened log) (done : assembly.settle = .ok settled) :
    settled.events.flatMap Event.leaked = assembly.leaked := by
  have bare (events : List Event) :
      (events.map Event.bare).flatMap Event.leaked = events.flatMap Event.leaked :=
    List.flatMap_map _ _ _
  rw [← bare, assembly.settle_bare settled done, bare, List.flatMap_append,
    assembly.stage.leaked_event? unbroken screened.stage, leaked]

/-- A line adds an inner field exactly if it is one and becomes output. -/
theorem leaked_feed [NestingLimits] (assembly fed : Assembly) (screened : assembly.Screened log)
    (line : Line) (done : assembly.feed line = .ok fed) :
    fed.leaked = assembly.leaked ++
      Line.leaked (if assembly.stage.keeps line then [line] else []) := by
  rcases assembly.feed_cases fed line done with
    ⟨stage, taken, rfl⟩ | ⟨refused, settled, settles, rfl⟩
  · have grown := assembly.stage.output_takes stage line taken
    rw [leaked, leaked, grown, Line.leaked_append, List.append_assoc]
  · have ends := assembly.stage.keeps_of_refused line refused
    have idle := settle_stage assembly settled settles
    rw [leaked_start settled line idle, leaked_settle unbroken assembly settled screened settles,
      ends]
    exact (List.append_nil _).symm

/-- A reading adds the inner fields among the lines that become output. The induction is on
    the lines. -/
theorem leaked_fold [NestingLimits] (lines : List Line) (assembly fed : Assembly)
    (screened : assembly.Screened log) (inLog : ∀ line ∈ lines, line ∈ log)
    (done : lines.foldlM feed assembly = .ok fed) :
    fed.leaked = assembly.leaked ++ Line.leaked (assembly.stage.kept lines) := by
  induction lines generalizing assembly with
  | nil =>
    cases done
    exact (List.append_nil _).symm
  | cons line rest inductionHypothesis =>
    obtain ⟨next, step, others⟩ := ok_of_foldlM feed line rest assembly fed done
    have further := screened.feed unbroken line (inLog line List.mem_cons_self) step
    have remaining : ∀ other ∈ rest, other ∈ log := fun other member =>
      inLog other (List.mem_cons_of_mem line member)
    rw [inductionHypothesis next further remaining others,
      leaked_feed unbroken assembly next screened line step, stage_feed assembly next line step,
      Stage.kept, List.append_assoc, ← Line.leaked_append]
    split <;> rfl

end Assembly

/-- What a transcript shows of blocks in captured output. After any number of lines
    it is the inner fields among the lines that became output, and so it is in the
    end. Nothing of a block is shown below a heading exactly if no line of output is
    an inner field. -/
structure LeftoversShown [NestingLimits] (log : Text) (events : List Event) : Prop where
  reading : ∀ read unread, log.lines = read ++ unread → ∃ state,
    read.foldlM Assembly.feed {} = .ok state ∧
      state.leaked = Line.leaked (Stage.between.kept read)
  shown : events.flatMap Event.leaked = Line.leaked (Stage.between.kept log.lines)
  clean : (∀ event ∈ events, event.leaked = []) ↔
    ∀ line ∈ Stage.between.kept log.lines, line.leaksBlock = false

/-- The inner fields of blocks that events show below their headings are those
    among the lines of output. -/
theorem leftovers_are_shown [NestingLimits] (log : Text) (events : List Event)
    (told : Transcript.events log = .ok events) : LeftoversShown log events := by
  obtain ⟨assembled, ofLines, rfl⟩ := ok_of_map (Assembly.ofLines log.lines) Event.place events told
  obtain ⟨state, settled, fed, done, rfl⟩ :=
    (Assembly.ofLines_eq_ok log.lines assembled).mp ofLines
  have unbroken := Text.unbroken_of_mem_lines log
  have unread : Assembly.Screened log.lines {} := Assembly.Screened.unread
  have unplaced (events : List Event) :
      (events.map Event.unplaced).flatMap Event.leaked = events.flatMap Event.leaked :=
    List.flatMap_map _ _ _
  have shown : (Event.place settled.flush.events).flatMap Event.leaked =
      Line.leaked (Stage.between.kept log.lines) := by
    rw [← unplaced, Event.place, Event.placeBy, Event.unplaced_placeFrom, unplaced,
      Assembly.leaked_flush,
      Assembly.leaked_settle unbroken state settled
        (unread.fold unbroken log.lines (fun _ member => member) fed) done,
      Assembly.leaked_fold unbroken log.lines {} state unread (fun _ member => member) fed]
    rfl
  constructor
  case reading =>
    intro read others split
    rw [split] at fed
    obtain ⟨middle, part, _⟩ := Assembly.foldlM_part read others {} state fed
    refine ⟨middle, part, ?_⟩
    refine Assembly.leaked_fold unbroken read {} middle unread ?_ part
    intro line member
    rw [split]
    exact List.mem_append_left others member
  case shown => exact shown
  case clean => rw [← Line.leaked_eq_nil, ← shown, List.flatMap_eq_nil_iff]

namespace CutBlock

/-- A header cuts a block short, and a field of it follows below the header. -/
def log : Text := Text.unlines
  ["─── memory_search | memory ───", "query: users", "Annotated \x7b",
    "─── shell | developer ───", "command: ls", "    annotations: None,"]

/-- The call whose block is cut short. -/
def search : Event :=
  { kind := .toolCall
    index := 0
    progress := .tenths 500
    content := "memory_search: users"
    tool := some ("memory_search" : Text)
    extension := some ("memory" : Text)
    params := some [("query", "users")] }

/-- The call that shows the field. -/
def shell : Event :=
  { kind := .toolCall
    index := 1
    progress := .tenths 1000
    content := Text.unlines ["shell: ls", "annotations: None,"]
    tool := some ("shell" : Text)
    extension := some ("developer" : Text)
    params := some [("command", "ls")] }

end CutBlock

/-- The field is shown as output of the call that cut the block short. The search whose block
    it was has no result. -/
theorem cut_block_is_shown :
    Transcript.events CutBlock.log = .ok [CutBlock.search, CutBlock.shell] ∧
      CutBlock.shell.content.lines.map Line.leaksBlock = [false, true] :=
  ⟨by decide +kernel, by decide +kernel⟩

/-- The field that is shown is the only line of output. -/
theorem cut_block_leftovers : Stage.between.kept CutBlock.log.lines = ["    annotations: None,"] ∧
    LeftoversShown CutBlock.log [CutBlock.search, CutBlock.shell] :=
  ⟨by decide +kernel, leftovers_are_shown CutBlock.log _ (by decide +kernel)⟩

end AgentRuns
