import AgentRuns.Proofs.Except
import AgentRuns.Proofs.Transcript.Recognition
import AgentRuns.Transcript.Assembly

/-!
# Reading in steps

A line either belongs to the open item or settles it. A line that belongs to the
item is consumed by an open block, or it begins no item of its own. Settling has
two halves: the item is told as an event, and a block that the item ends with is
captured and answers a waiting call. The first half never fails, and only the
second looks at what a block holds.

These laws say once what a line can do. Whatever holds of a reading is derived
from them, without looking into the stages again.
-/

namespace AgentRuns

/-- What begins an item. -/
inductive Heading
  | call (tool extension : Text)
  | command (command : Text)
  | session (provider model : Text)
  | run (line : Line)
  deriving DecidableEq

/-- What the line begins. Headers of calls begin an item whatever else they are,
    the other lines only if they are no noise. -/
def Line.heading? (line : Line) : Option Heading :=
  match line.toolHeader? with
  | some (tool, extension) => some (.call tool extension)
  | none =>
    if line.isNoise then none
    else match line.command?, line.session?, line.runHeader? with
      | some command, _, _ => some (.command command)
      | _, some (provider, model), _ => some (.session provider model)
      | _, _, some _ => some (.run line)
      | none, none, none => none

/-- A line that ends no item begins none. -/
theorem Line.heading?_of_isStructural (line : Line) (inner : line.isStructural = false) :
    line.heading? = none := by
  simp only [isStructural, isToolHeader, Bool.or_eq_false_iff, Option.isSome_eq_false_iff,
    Option.isNone_iff_eq_none] at inner
  obtain ⟨⟨⟨header, command⟩, session⟩, run⟩ := inner
  simp [heading?, header, command, session, run]

/-- Noise begins no item. The test for noise comes first. -/
theorem Line.heading?_of_isNoise (line : Line) (noise : line.isNoise = true) :
    line.heading? = none := by
  cases header : line.toolHeader? with
  | none => simp [heading?, header, noise]
  | some call =>
    have isHeader : line.isToolHeader = true := by simp [isToolHeader, header]
    rw [line.isNoise_of_isToolHeader isHeader] at noise
    cases noise

/-- A header begins a call. It is never noise. -/
theorem Line.heading?_of_toolHeader? (line : Line) (tool extension : Text)
    (header : line.toolHeader? = some (tool, extension)) :
    line.heading? = some (.call tool extension) := by
  simp [heading?, header]

/-- A command line begins a command, unless it is noise. -/
theorem Line.heading?_of_command? (line : Line) (text : Text)
    (command : line.command? = some text) (loud : line.isNoise = false) :
    line.heading? = some (.command text) := by
  have isCommand : line.isOf .command = true := by simp [isOf, command]
  have notHeader := line.isOf_other .command .header isCommand (by decide)
  simp only [isOf, isToolHeader, Option.isSome_eq_false_iff,
    Option.isNone_iff_eq_none] at notHeader
  simp [heading?, notHeader, loud, command]

/-- A session line begins a session, unless it is noise. -/
theorem Line.heading?_of_session? (line : Line) (provider model : Text)
    (session : line.session? = some (provider, model)) (loud : line.isNoise = false) :
    line.heading? = some (.session provider model) := by
  have isSession : line.isOf .session = true := by simp [isOf, session]
  have notHeader := line.isOf_other .session .header isSession (by decide)
  have notCommand := line.isOf_other .session .command isSession (by decide)
  simp only [isOf, isToolHeader, Option.isSome_eq_false_iff,
    Option.isNone_iff_eq_none] at notHeader notCommand
  simp [heading?, notHeader, notCommand, loud, session]

/-- A run header begins a run, unless it is noise. -/
theorem Line.heading?_of_runHeader? (line : Line) (id : Text)
    (run : line.runHeader? = some id) (loud : line.isNoise = false) :
    line.heading? = some (.run line) := by
  have isRun : line.isOf .run = true := by simp [isOf, run]
  have notHeader := line.isOf_other .run .header isRun (by decide)
  have notCommand := line.isOf_other .run .command isRun (by decide)
  have notSession := line.isOf_other .run .session isRun (by decide)
  simp only [isOf, isToolHeader, Option.isSome_eq_false_iff,
    Option.isNone_iff_eq_none] at notHeader notCommand notSession
  simp [heading?, notHeader, notCommand, notSession, loud, run]

/-- A line that begins an item is neither noise nor an opening of a block. Those tests come
    before. -/
theorem Line.plain_of_heading? (line : Line) (heading : Heading)
    (begins : line.heading? = some heading) :
    line.isNoise = false ∧ line.opensBlock = false := by
  constructor
  · rw [Bool.eq_false_iff]
    intro noise
    rw [line.heading?_of_isNoise noise] at begins
    cases begins
  · rw [Bool.eq_false_iff]
    intro opens
    rw [line.heading?_of_isStructural (line.isStructural_of_isOf .opening opens (by simp))]
      at begins
    cases begins

namespace Event

/-- A command is told as one or marks a phase. In neither case it is told as a call. -/
theorem kind_ofCommand (command : Text) (output : List Line) :
    (ofCommand command output).kind = .shellCommand ∨
      (ofCommand command output).kind = .phaseMarker := by
  unfold ofCommand
  cases phase? command with
  | none => exact Or.inl rfl
  | some phase => exact Or.inr rfl

/-- Reasoning is the text of the lines less the inner fields of blocks, unless
    nothing is left of it or the tail of a block. -/
theorem reasoning?_eq_some (lines : List Line) (event : Event) :
    reasoning? lines = some event ↔
      let text := Text.strip (Text.unlines (lines.filter (!·.leaksBlock)))
      text ≠ [] ∧ Line.debris? text = none ∧
        event = { kind := .agentThinking, content := text } := by
  unfold reasoning?
  dsimp only
  split
  · rename_i nothing
    simp only [Bool.or_eq_true, List.isEmpty_iff, Option.isSome_iff_ne_none] at nothing
    constructor
    · intro impossible
      cases impossible
    · rintro ⟨someText, noDebris, _⟩
      exact absurd nothing (not_or.mpr ⟨someText, not_not.mpr noDebris⟩)
  · rename_i sound
    simp only [Bool.or_eq_true, List.isEmpty_iff, not_or, Option.not_isSome_iff_eq_none] at sound
    constructor
    · intro same
      exact ⟨sound.1, sound.2, (Option.some.inj same).symm⟩
    · rintro ⟨_, _, rfl⟩
      rfl

end Event

namespace Stage

/-- The event of the open item, as far as it has been read. -/
def event? : Stage → Option Event
  | .between | .detached _ => none
  | .session provider model => some (.ofSession provider model)
  | .command text output | .commandBlock text output _ => some (.ofCommand text output)
  | .params call | .body call | .answer call _ =>
    some (.ofCall call.tool call.extension call.params call.output)

/-- The block that is open. -/
def block? : Stage → Option Block
  | .commandBlock _ _ block | .answer _ block | .detached block => some block
  | _ => none

/-- Whether the open block consumes the line. -/
def consumes (stage : Stage) (line : Line) : Bool := stage.block?.any (·.takes line)

/-- What began the open item, if an event tells of it. -/
def heading? : Stage → Option Heading
  | .between | .detached _ => none
  | .session provider model => some (.session provider model)
  | .command text _ | .commandBlock text _ _ => some (.command text)
  | .params call | .body call | .answer call _ => some (.call call.tool call.extension)

/-- A stage has an event exactly if it has a heading. -/
theorem event?_eq_none (stage : Stage) : stage.event? = none ↔ stage.heading? = none := by
  cases stage <;> simp [event?, heading?]

/-- A line below a command begins no item. It opens a block, is noise, or is more
    output. -/
theorem commandTakes_forms (text : Text) (output : List Line) (line : Line) (next : Stage)
    (taken : commandTakes? text output line = some next) :
    line.heading? = none ∧ (next = .commandBlock text output (Block.start line) ∨
      next = .command text output ∨
        line.isNoise = false ∧ next = .command text (output ++ [line])) := by
  unfold commandTakes? at taken
  split at taken
  · cases taken
  · rename_i inner
    have noHeading := line.heading?_of_isStructural (Bool.eq_false_iff.mpr inner)
    split at taken
    · exact ⟨noHeading, Or.inl (Option.some.inj taken).symm⟩
    · split at taken
      · exact ⟨noHeading, Or.inr (Or.inl (Option.some.inj taken).symm)⟩
      · rename_i loud
        exact ⟨noHeading, Or.inr (Or.inr
          ⟨Bool.eq_false_iff.mpr loud, (Option.some.inj taken).symm⟩)⟩

/-- A line below a call's parameters begins no item. It opens the block that ends
    the call, is noise, or is more output. -/
theorem callTakes_forms (call : Call) (line : Line) (next : Stage)
    (taken : callTakes? call line = some next) :
    line.heading? = none ∧ (next = .answer call (Block.start line) ∨ next = .body call ∨
      line.isNoise = false ∧ next = .body { call with output := call.output ++ [line] }) := by
  unfold callTakes? at taken
  split at taken
  · cases taken
  · rename_i inner
    have noHeading := line.heading?_of_isStructural (Bool.eq_false_iff.mpr inner)
    split at taken
    · exact ⟨noHeading, Or.inl (Option.some.inj taken).symm⟩
    · split at taken
      · exact ⟨noHeading, Or.inr (Or.inl (Option.some.inj taken).symm)⟩
      · rename_i loud
        exact ⟨noHeading, Or.inr (Or.inr
          ⟨Bool.eq_false_iff.mpr loud, (Option.some.inj taken).symm⟩)⟩

/-- A line below a command leaves it the command it is and opens a block at most. -/
theorem commandTakes_cases (text : Text) (output : List Line) (line : Line) (next : Stage)
    (taken : commandTakes? text output line = some next) :
    line.heading? = none ∧ next.heading? = some (.command text) ∧
      (next.block? = none ∨ next.block? = some (Block.start line)) := by
  obtain ⟨noHeading, rfl | rfl | ⟨_, rfl⟩⟩ := commandTakes_forms text output line next taken
  · exact ⟨noHeading, rfl, Or.inr rfl⟩
  · exact ⟨noHeading, rfl, Or.inl rfl⟩
  · exact ⟨noHeading, rfl, Or.inl rfl⟩

/-- A line below a call's parameters leaves it the call it is and opens a block at
    most. -/
theorem callTakes_cases (call : Call) (line : Line) (next : Stage)
    (taken : callTakes? call line = some next) :
    line.heading? = none ∧ next.heading? = some (.call call.tool call.extension) ∧
      (next.block? = none ∨ next.block? = some (Block.start line)) := by
  obtain ⟨noHeading, rfl | rfl | ⟨_, rfl⟩⟩ := callTakes_forms call line next taken
  · exact ⟨noHeading, rfl, Or.inr rfl⟩
  · exact ⟨noHeading, rfl, Or.inl rfl⟩
  · exact ⟨noHeading, rfl, Or.inl rfl⟩

/-- The ways in which a line belongs to the open item. -/
inductive Takes (line : Line) : Stage → Stage → Prop
  | detail (provider model : Text) (detail : (line.sessionDetail?).isSome = true) :
      Takes line (.session provider model) (.session provider model)
  | command (text : Text) (output : List Line) (next : Stage)
      (below : commandTakes? text output line = some next) :
      Takes line (.command text output) next
  | commandBlock (text : Text) (output : List Line) (block : Block)
      (takes : block.takes line = true) :
      Takes line (.commandBlock text output block) (.commandBlock text output (block.add line))
  | behindBlock (text : Text) (output : List Line) (block : Block) (next : Stage)
      (refuses : block.takes line = false) (below : commandTakes? text output line = some next) :
      Takes line (.commandBlock text output block) next
  | noise (call : Call) (noise : line.isNoise = true) : Takes line (.params call) (.params call)
  | param (call : Call) (key value : Text) (loud : line.isNoise = false)
      (found : line.parameter? = some (key, value)) :
      Takes line (.params call) (.params { call with params := call.params.put key value })
  | behindParams (call : Call) (next : Stage) (below : callTakes? call line = some next) :
      Takes line (.params call) next
  | body (call : Call) (next : Stage) (below : callTakes? call line = some next) :
      Takes line (.body call) next
  | answer (call : Call) (block : Block) (takes : block.takes line = true) :
      Takes line (.answer call block) (.answer call (block.add line))
  | detached (block : Block) (takes : block.takes line = true) :
      Takes line (.detached block) (.detached (block.add line))

/-- A line that is taken belongs to the item in one of those ways. There is one case for each
    stage. -/
theorem takes_of_takes? (stage next : Stage) (line : Line)
    (taken : stage.takes? line = some next) : Takes line stage next := by
  cases stage with
  | between => cases taken
  | session provider model =>
    simp only [takes?] at taken
    split at taken
    · rename_i detail
      cases taken
      exact .detail provider model detail
    · cases taken
  | command text output => exact .command text output next taken
  | commandBlock text output block =>
    simp only [takes?] at taken
    split at taken
    · rename_i takes
      cases taken
      exact .commandBlock text output block takes
    · rename_i refuses
      exact .behindBlock text output block next (Bool.eq_false_iff.mpr refuses) taken
  | params call =>
    simp only [takes?] at taken
    split at taken
    · rename_i noise
      cases taken
      exact .noise call noise
    · rename_i loud
      split at taken
      · rename_i key value found
        cases taken
        exact .param call key value (Bool.eq_false_iff.mpr loud) found
      · exact .behindParams call next taken
  | body call => exact .body call next taken
  | answer call block =>
    simp only [takes?] at taken
    split at taken
    · rename_i takes
      cases taken
      exact .answer call block takes
    · cases taken
  | detached block =>
    simp only [takes?] at taken
    split at taken
    · rename_i takes
      cases taken
      exact .detached block takes
    · cases taken

/-- A line that belongs to the open item leaves the item what it is. Either the
    open block consumes the line, or the line begins no item and opens a block
    at most. -/
theorem takes_cases (stage next : Stage) (line : Line) (taken : stage.takes? line = some next) :
    next.heading? = stage.heading? ∧
      ((∃ block, stage.block? = some block ∧ block.takes line = true ∧
          next.block? = some (block.add line)) ∨
        (stage.consumes line = false ∧ line.heading? = none ∧
          (next.block? = none ∨ next.block? = some (Block.start line)))) := by
  cases stage.takes_of_takes? next line taken with
  | detail _ _ detail =>
    have inner := line.isStructural_of_isOf .detail detail (by simp)
    exact ⟨rfl, Or.inr ⟨rfl, line.heading?_of_isStructural inner, Or.inl rfl⟩⟩
  | command text output _ below =>
    obtain ⟨noHeading, same, opens⟩ := commandTakes_cases text output line next below
    exact ⟨same, Or.inr ⟨rfl, noHeading, opens⟩⟩
  | behindBlock text output block _ refuses below =>
    obtain ⟨noHeading, same, opens⟩ := commandTakes_cases text output line next below
    exact ⟨same, Or.inr ⟨refuses, noHeading, opens⟩⟩
  | noise call noise =>
    exact ⟨rfl, Or.inr ⟨rfl, line.heading?_of_isNoise noise, Or.inl rfl⟩⟩
  | param call key value _ found =>
    have inner := line.isStructural_of_isOf .parameter (by simp [Line.isOf, found]) (by simp)
    exact ⟨rfl, Or.inr ⟨rfl, line.heading?_of_isStructural inner, Or.inl rfl⟩⟩
  | behindParams call _ below | body call _ below =>
    obtain ⟨noHeading, same, opens⟩ := callTakes_cases call line next below
    exact ⟨same, Or.inr ⟨rfl, noHeading, opens⟩⟩
  | commandBlock _ _ block takes | answer _ block takes | detached block takes =>
    exact ⟨rfl, Or.inl ⟨block, rfl, takes, rfl⟩⟩

/-- A line that does not belong to the open item is not consumed. What a block consumes
    belongs to its item. -/
theorem consumes_of_refused (stage : Stage) (line : Line) (refused : stage.takes? line = none) :
    stage.consumes line = false := by
  cases stage with
  | between | session | command | params | body => rfl
  | commandBlock | answer | detached =>
    simp only [takes?] at refused
    split at refused
    · cases refused
    · rename_i refuses
      exact Bool.eq_false_iff.mpr refuses

end Stage

namespace Assembly

/-- The assembly with its open item told as an event, before any answer. -/
def told (assembly : Assembly) : Assembly :=
  let idle := { assembly with stage := .between }
  match assembly.stage with
  | .between | .detached _ => idle
  | .session provider model => idle.emit (.ofSession provider model)
  | .command command output | .commandBlock command output _ =>
    idle.emit (.ofCommand command output)
  | .params call | .body call | .answer call _ => idle.announce call

/-- The block that answers a call when the open item is settled: the block below
    a capturing call, or a detached one while a call waits. -/
def captured? (assembly : Assembly) : Option Block :=
  match assembly.stage with
  | .answer call block => if capturesResult call.tool then some block else none
  | .detached block => if assembly.pending.isEmpty then none else some block
  | _ => none

section

variable [NestingLimits]

/-- Settling tells the open item and then answers with the captured block. The summary of this
    block is all that can fail. -/
theorem settle_eq (assembly : Assembly) :
    assembly.settle =
      match assembly.captured? with
      | none => .ok assembly.told
      | some block => (Summary.ofBlock block).map assembly.told.resolve := by
  obtain ⟨events, thinking, pending, stage⟩ := assembly
  cases stage with
  | between | session | command | commandBlock | params | body => rfl
  | answer call block =>
    simp only [settle, captured?, told]
    split
    · dsimp only
      cases Summary.ofBlock block <;> rfl
    · rfl
  | detached block =>
    simp only [settle, captured?, told]
    split
    · rfl
    · dsimp only
      cases Summary.ofBlock block <;> rfl

/-- A settled item was told, and then answered with the captured block. -/
theorem settle_cases (assembly settled : Assembly) (done : assembly.settle = .ok settled) :
    settled = assembly.told ∨ ∃ summary, settled = assembly.told.resolve summary := by
  rw [settle_eq] at done
  split at done
  · exact Or.inl (Except.ok.inj done).symm
  · obtain ⟨summary, _, answered⟩ := ok_of_map _ _ settled done
    exact Or.inr ⟨summary, answered.symm⟩

/-- A line that belongs to the open item changes nothing but the item. Events, prose and line
    stay as they are. -/
theorem feed_taken (assembly : Assembly) (line : Line) (stage : Stage)
    (taken : assembly.stage.takes? line = some stage) :
    assembly.feed line = .ok { assembly with stage } := by
  simp only [feed, taken]
  rfl

/-- A line that does not belong to the open item settles it and is then read as
    a line between items. -/
theorem feed_refused (assembly : Assembly) (line : Line)
    (refused : assembly.stage.takes? line = none) :
    assembly.feed line = assembly.settle.map (·.start line) := by
  simp only [feed, refused]
  cases assembly.settle <;> rfl

/-- A line belongs to the open item, or it settles the item and is read as a line
    between items. -/
theorem feed_cases (assembly fed : Assembly) (line : Line) (done : assembly.feed line = .ok fed) :
    (∃ stage, assembly.stage.takes? line = some stage ∧ fed = { assembly with stage }) ∨
      (assembly.stage.takes? line = none ∧
        ∃ settled, assembly.settle = .ok settled ∧ fed = settled.start line) := by
  cases taken : assembly.stage.takes? line with
  | some stage =>
    rw [feed_taken assembly line stage taken] at done
    exact Or.inl ⟨stage, rfl, (Except.ok.inj done).symm⟩
  | none =>
    rw [feed_refused assembly line taken] at done
    obtain ⟨settled, settles, started⟩ := ok_of_map _ _ fed done
    exact Or.inr ⟨rfl, settled, settles, started.symm⟩

end

/-- The assembly behind a line that begins an item. A run header is an item of
    one line and is told at once; of the others nothing but the start is read. -/
def begin (assembly : Assembly) : Heading → Assembly
  | .call tool extension => { assembly.flush with stage := .params { tool, extension } }
  | .command command => { assembly.flush with stage := .command command [] }
  | .session provider model => { assembly.flush with stage := .session provider model }
  | .run line => assembly.flush.emit { kind := .info, content := line }

/-- A line between items begins an item, or is noise, opens a block or is prose. -/
theorem start_eq (assembly : Assembly) (line : Line) :
    assembly.start line =
      match line.heading? with
      | some heading => assembly.begin heading
      | none =>
        if line.isNoise then assembly
        else if line.opensBlock then { assembly with stage := .detached (Block.start line) }
        else { assembly with thinking := assembly.thinking ++ [line] } := by
  cases header : line.toolHeader? with
  | some call =>
    obtain ⟨tool, extension⟩ := call
    have begins : line.heading? = some (.call tool extension) := by
      simp [Line.heading?, header]
    obtain ⟨notNoise, notOpening⟩ := line.plain_of_heading? _ begins
    simp [start, begins, header, notNoise, notOpening, begin]
  | none =>
    by_cases noise : line.isNoise = true
    · simp [start, line.heading?_of_isNoise noise, noise]
    by_cases opens : line.opensBlock = true
    · have inner := line.isStructural_of_isOf .opening opens (by simp)
      simp [start, line.heading?_of_isStructural inner, noise, opens]
    cases command : line.command? with
    | some text => simp [start, Line.heading?, header, command, noise, opens, begin]
    | none =>
      cases session : line.session? with
      | some fields =>
        simp [start, Line.heading?, header, command, session, noise, opens, begin]
      | none =>
        cases run : line.runHeader? <;>
          simp [start, Line.heading?, header, command, session, run, noise, opens, begin]

/-- A captured block is the open one. Not every open block is captured. -/
theorem block?_of_captured? (assembly : Assembly) (block : Block)
    (captured : assembly.captured? = some block) : assembly.stage.block? = some block := by
  unfold captured? at captured
  split at captured
  · rename_i stage
    split at captured
    · rw [stage]
      exact captured
    · cases captured
  · rename_i stage
    split at captured
    · cases captured
    · rw [stage]
      exact captured
  · cases captured

/-- One more event opens and closes nothing. -/
@[simp] theorem emit_stage (assembly : Assembly) (event : Event) :
    (assembly.emit event).stage = assembly.stage := rfl

/-- A call that is told opens and closes nothing. -/
@[simp] theorem announce_stage (assembly : Assembly) (call : Call) :
    (assembly.announce call).stage = assembly.stage := by
  unfold announce
  split <;> rfl

/-- Telling the gathered prose opens and closes nothing. -/
@[simp] theorem flush_stage (assembly : Assembly) : assembly.flush.stage = assembly.stage := by
  unfold flush
  dsimp only
  split <;> rfl

/-- An answer opens and closes nothing. -/
@[simp] theorem resolve_stage (assembly : Assembly) (summary : Text) :
    (assembly.resolve summary).stage = assembly.stage := by
  unfold resolve
  split <;> rfl

/-- A call is told behind all events, whether it is captured or not. -/
theorem announce_events (assembly : Assembly) (call : Call) :
    (assembly.announce call).events =
      assembly.events ++ [.ofCall call.tool call.extension call.params call.output] := by
  unfold announce
  split <;> rfl

/-- The prose is told behind all events, if it holds reasoning. -/
theorem flush_events (assembly : Assembly) :
    assembly.flush.events = assembly.events ++ (Event.reasoning? assembly.thinking).toList := by
  unfold flush
  cases Event.reasoning? assembly.thinking with
  | none => exact (List.append_nil _).symm
  | some thought => rfl

/-- The open item is told behind all events. Between items there is nothing to tell. -/
theorem told_events (assembly : Assembly) :
    assembly.told.events = assembly.events ++ assembly.stage.event?.toList := by
  unfold told
  cases assembly.stage with
  | between | detached => exact (List.append_nil _).symm
  | session | command | commandBlock => rfl
  | params | body | answer => exact announce_events _ _

/-- Nothing is open behind a told item. -/
@[simp] theorem told_stage (assembly : Assembly) : assembly.told.stage = .between := by
  unfold told
  dsimp only
  split <;> simp

/-- Nothing is open behind a settled item. -/
theorem settle_stage [NestingLimits] (assembly settled : Assembly)
    (done : assembly.settle = .ok settled) :
    settled.stage = .between := by
  rcases assembly.settle_cases settled done with rfl | ⟨summary, rfl⟩
  · exact told_stage assembly
  · rw [resolve_stage, told_stage]

/-- Lines are assembled exactly if all of them can be read and the item that is
    open behind them can be settled. -/
theorem ofLines_eq_ok [NestingLimits] (lines : List Line) (events : List Event) :
    ofLines lines = .ok events ↔ ∃ state settled, lines.foldlM feed {} = .ok state ∧
      state.settle = .ok settled ∧ settled.flush.events = events := by
  unfold ofLines finish
  constructor
  · intro assembled
    obtain ⟨state, fed, finished⟩ := ok_of_bind _ _ events assembled
    obtain ⟨settled, done, flushed⟩ := ok_of_bind _ _ events finished
    exact ⟨state, settled, fed, done, Except.ok.inj flushed⟩
  · rintro ⟨state, settled, fed, done, rfl⟩
    simp only [fed, bind, Except.bind, done]
    rfl

/-- What can be read whole can be read in part. A failure would have ended the reading there. -/
theorem foldlM_part [NestingLimits] (read unread : List Line) (initial state : Assembly)
    (fed : (read ++ unread).foldlM feed initial = .ok state) :
    ∃ middle, read.foldlM feed initial = .ok middle ∧
      unread.foldlM feed middle = .ok state := by
  rw [List.foldlM_append] at fed
  exact ok_of_bind _ _ state fed

end Assembly

end AgentRuns
