import AgentRuns.Proofs.Transcript.Batch
import AgentRuns.Proofs.Transcript.Items
import AgentRuns.Proofs.Transcript.Standing

/-!
# Where a block comes that answers a call

A block can come directly below the parameters of a call, below the output of the
call, or detached, once the call has ended and has waited longest. A block of one
line that is looked at answers the call alike in all three places.

Whether it is looked at is another matter. The line of a block may be noise for
what its payload says. Below output it is told first whether a line opens a block.
In the two other places noise is passed over first, and the block with it.
-/

namespace AgentRuns

/-- The places of a block that answers a call. -/
inductive Placement
  | belowParams
  | belowOutput
  | detached
  deriving DecidableEq

namespace Placement

/-- Whether a block of that one line is passed over as noise. -/
def overlooks (placement : Placement) (line : Line) : Bool :=
  line.isNoise && placement != .belowOutput

/-- Whether a line that comes while an item is read has the place: below the
    parameters or the output of a captured call, or behind the item. -/
def Suits (placement : Placement) (stage : Stage) (line : Line) : Prop :=
  match placement with
  | .belowParams => ∃ call, stage = .params call ∧ capturesResult call.tool = true
  | .belowOutput => ∃ call, stage = .body call ∧ capturesResult call.tool = true
  | .detached => stage.takes? line = none

end Placement

namespace Stage

/-- An item that a block does not belong to takes no further line, unless it is a
    session. -/
theorem takes?_behind (stage : Stage) (opening line : Line) (opens : opening.opensBlock = true)
    (refused : stage.takes? opening = none)
    (noSession : ∀ provider model, stage ≠ .session provider model) :
    stage.takes? line = none := by
  have inner := opening.isStructural_of_isOf .opening opens (by simp)
  have notHeader : opening.isToolHeader = false :=
    opening.isOf_other .opening .header opens (by decide)
  have closed (block : Block) (refuses : block.takes opening = false) :
      block.takes line = false := by
    simp only [Block.takes, notHeader, Bool.not_false, Bool.and_true,
      decide_eq_false_iff_not] at refuses
    simp [Block.takes, refuses]
  have below (text : Text) (output : List Line) :
      commandTakes? text output opening ≠ none := by
    simp [commandTakes?, inner, opens]
  cases stage with
  | between => rfl
  | session provider model => exact absurd rfl (noSession provider model)
  | command text output => exact absurd refused (below text output)
  | commandBlock text output block =>
    simp only [takes?] at refused
    split at refused
    · cases refused
    · exact absurd refused (below text output)
  | params call =>
    simp only [takes?, opening.parameter?_of_opensBlock opens,
      callTakes?_opening call opening opens] at refused
    split at refused <;> cases refused
  | body call =>
    simp only [takes?, callTakes?_opening call opening opens] at refused
    cases refused
  | answer call block | detached block =>
    have refuses := Stage.consumes_of_refused _ opening refused
    simp only [consumes, block?, Option.any_some] at refuses
    simp [takes?, closed block refuses]

end Stage

namespace Assembly

variable [NestingLimits]

/-- Where somebody waits a block whose summary is known answers the first in line. -/
theorem answerBy_first (assembly : Assembly) (block : Block) (call : Nat) (later : List Nat)
    (summary : Text) (line : assembly.pending = call :: later)
    (summed : Summary.ofBlock block = .ok summary) :
    assembly.answerBy block = .ok (assembly.resolve summary) := by
  simp [answerBy, line, summed, pure, Except.pure, bind, Except.bind]

/-- A block of one line below a captured call ends it and answers the call that has
    waited longest. -/
theorem read_ending (assembly : Assembly) (call : Call) (stage : Stage) (line : Line)
    (rest : List Line) (first : Nat) (later : List Nat) (summary : Text)
    (captured : capturesResult call.tool = true) (idle : assembly.stage = .between)
    (taken : stage.takes? line = some (.answer call (Block.start line)))
    (closed : Block.braceDelta line ≤ 0)
    (waiting : (assembly.announce call).pending = first :: later)
    (summed : Summary.ofBlock (Block.start line) = .ok summary) :
    ({ assembly with stage } : Assembly).read (line :: rest) =
      ((assembly.announce call).resolve summary).read rest := by
  rw [read_taken _ line rest _ taken]
  have whole := assembly.read_answer_closed call (Block.start line) rest idle closed
  rwa [if_pos captured, answerBy_first _ _ first later summary waiting summed] at whole

/-- A settled session has abandoned who waited. It is told as an event that is no call. -/
theorem nobody_behind_session (state settled : Assembly) (provider model : Text)
    (session : state.stage = .session provider model) (done : state.settle = .ok settled) :
    settled.pending = [] := by
  have nothing : state.captured? = none := by simp [captured?, session]
  rw [settle_eq, nothing] at done
  cases done
  simp [told, session, emit, Event.ofSession]

/-- A block of one line behind an item answers the call that has waited longest, or
    it is passed over as noise. -/
theorem read_detached_line (state settled : Assembly) (line : Line) (rest : List Line)
    (first : Nat) (later : List Nat) (summary : Text) (opens : line.opensBlock = true)
    (refused : state.stage.takes? line = none) (closed : Block.braceDelta line ≤ 0)
    (done : state.settle = .ok settled) (waiting : settled.pending = first :: later)
    (summed : Summary.ofBlock (Block.start line) = .ok summary) :
    state.read (line :: rest) =
      if line.isNoise then state.read rest else (settled.resolve summary).read rest := by
  have idle := state.settle_stage settled done
  have started : state.read (line :: rest) = (settled.start line).read rest := by
    rw [state.read_refused line rest refused, done]
    rfl
  cases noise : line.isNoise with
  | true =>
    -- The item could go on behind the noise only if it were a session.
    have noSession (provider model : Text) : state.stage ≠ .session provider model := by
      intro session
      rw [state.nobody_behind_session settled provider model session done] at waiting
      cases waiting
    have passed : settled.start line = settled := by simp [start, noise]
    have ends : ∀ other, rest.head? = some other → state.stage.takes? other = none :=
      fun other _ => state.stage.takes?_behind line other opens refused noSession
    rw [started, passed, if_pos rfl, state.read_settle rest ends, done]
    rfl
  | false =>
    rw [started, settled.start_opening line opens noise,
      settled.read_detached_closed (Block.start line) rest idle closed,
      settled.answerBy_first _ first later summary waiting summed]
    rfl

/-- A block of one line that has one of the places answers the call that has waited
    longest, or it is passed over. -/
theorem read_placed (state settled : Assembly) (placement : Placement) (line : Line)
    (rest : List Line) (first : Nat) (later : List Nat) (summary : Text)
    (suits : placement.Suits state.stage line) (opens : line.opensBlock = true)
    (closed : Block.braceDelta line ≤ 0) (done : state.settle = .ok settled)
    (waiting : settled.pending = first :: later)
    (summed : Summary.ofBlock (Block.start line) = .ok summary) :
    state.read (line :: rest) =
      if placement.overlooks line then state.read rest
      else (settled.resolve summary).read rest := by
  have below (call : Call) (stage : Stage) (same : state.stage = stage)
      (hasCall : stage = .params call ∨ stage = .body call)
      (captured : capturesResult call.tool = true)
      (taken : stage.takes? line = some (.answer call (Block.start line))) :
      state.read (line :: rest) = (settled.resolve summary).read rest := by
    obtain ⟨events, thinking, pending, opened⟩ := state
    cases same
    have told := settle_call ⟨events, thinking, pending, .between⟩ call opened rfl hasCall
    cases told.symm.trans done
    exact read_ending ⟨events, thinking, pending, .between⟩ call opened line rest first later
      summary captured rfl taken closed waiting summed
  have opening (call : Call) := Stage.callTakes?_opening call line opens
  cases placement with
  | belowParams =>
    obtain ⟨call, stage, captured⟩ := suits
    cases noise : line.isNoise with
    | true =>
      have taken : state.stage.takes? line = some state.stage := by
        simp [stage, Stage.takes?, noise]
      rw [state.read_taken line rest state.stage taken]
      simp [Placement.overlooks, noise]
    | false =>
      have noParameter := line.parameter?_of_opensBlock opens
      rw [below call _ stage (Or.inl rfl) captured
        (by simp [Stage.takes?, noise, noParameter, opening])]
      simp [Placement.overlooks, noise]
  | belowOutput =>
    obtain ⟨call, stage, captured⟩ := suits
    rw [below call _ stage (Or.inr rfl) captured (opening call)]
    simp [Placement.overlooks]
  | detached =>
    rw [state.read_detached_line settled line rest first later summary opens suits closed done
      waiting summed]
    simp [Placement.overlooks]

end Assembly

/-- Below output, lines that end no item and open no block are read into the output. The tool
    stays the same. -/
theorem Stage.foldlM_body (body : Call) (more : List Line)
    (inner : ∀ line ∈ more, line.isStructural = false ∧ line.opensBlock = false) :
    ∃ final, final.tool = body.tool ∧
      more.foldlM takes? (.body body) = some (.body final) := by
  induction more generalizing body with
  | nil => exact ⟨body, rfl, rfl⟩
  | cons line more inductionHypothesis =>
    obtain ⟨notStructural, opensNot⟩ := inner line List.mem_cons_self
    obtain ⟨next, sameTool, taken⟩ : ∃ next, next.tool = body.tool ∧
        (Stage.body body).takes? line = some (.body next) := by
      simp only [takes?, callTakes?, notStructural, opensNot, Bool.false_eq_true, if_false]
      split
      · exact ⟨body, rfl, rfl⟩
      · exact ⟨{ body with output := body.output ++ [line] }, rfl, rfl⟩
    obtain ⟨final, finalTool, others⟩ := inductionHypothesis next
      fun other member => inner other (List.mem_cons_of_mem line member)
    refine ⟨final, finalTool.trans sameTool, ?_⟩
    rw [List.foldlM_cons, taken]
    exact others

/-- Output begins below a call's parameters with a line that is no parameter. Behind it no
    line is looked at as a parameter. -/
theorem Stage.foldlM_output (call : Call) (output : Line) (more : List Line)
    (plain : output.isPlain = true) (apart : output.parameter? = none)
    (inner : ∀ line ∈ more, line.isStructural = false ∧ line.opensBlock = false) :
    ∃ body, body.tool = call.tool ∧
      (output :: more).foldlM takes? (.params call) = some (.body body) := by
  obtain ⟨body, sameTool, others⟩ := foldlM_body { call with output := call.output ++ [output] }
    more inner
  refine ⟨body, sameTool, ?_⟩
  rw [List.foldlM_cons, takes?_output call output plain apart]
  exact others

namespace BatchedCall

/-- A header ends whatever is open, a block too. -/
theorem takes?_header (call : BatchedCall) (stage : Stage) : stage.takes? call.header = none := by
  apply stage.takes?_of_heading? call.header _ call.begins
  rw [Bool.eq_false_iff]
  intro consumed
  have noHeader := stage.toolHeader?_of_consumes call.header consumed
  rw [call.announces] at noHeader
  cases noHeader

/-- The lines of a call settle what was open and leave the call open. The prose is told
    between the two. -/
theorem foldlM_lines [NestingLimits] (call : BatchedCall) (assembly settled : Assembly)
    (done : assembly.settle = .ok settled) :
    call.lines.foldlM Assembly.feed assembly =
      .ok { settled.flush with stage := .params call.call } := by
  have begun : assembly.feed call.header =
      .ok (settled.begin (.call call.tool call.extension)) := by
    rw [assembly.feed_refused call.header (call.takes?_header _), done, Except.map,
      Assembly.start_eq, call.begins]
  rw [lines, List.foldlM_cons, begun]
  exact Assembly.foldlM_through _ call.below _ (Stage.foldlM_params _ call.below call.plain)

end BatchedCall

/-- Where a block comes in lines that hold a call. -/
inductive Placed [NestingLimits] (before : List Line) (call : BatchedCall) (block : Line) :
    Placement → List Line → Prop
  | belowParams : Placed before call block .belowParams []
  | belowOutput (output : Line) (more : List Line) (plain : output.isPlain = true)
      (apart : output.parameter? = none)
      (inner : ∀ line ∈ more, line.isStructural = false ∧ line.opensBlock = false) :
      Placed before call block .belowOutput (output :: more)
  | detached (between : List Line)
      (ends : Assembly.endsItem (before ++ (call.lines ++ between)) (some block) = true) :
      Placed before call block .detached between

/-- A block that is placed so in the lines has the place when they are read. There is one case
    for each placement. -/
theorem Placed.suits [NestingLimits] {before between : List Line} {call : BatchedCall}
    {block : Line} {placement : Placement} (placed : Placed before call block placement between)
    (captured : call.captured = true) (opened state : Assembly)
    (isOpen : opened.stage = .params call.call)
    (fed : between.foldlM Assembly.feed opened = .ok state)
    (reached : Assembly.reached? (before ++ (call.lines ++ between)) = some state) :
    placement.Suits state.stage block := by
  cases placed with
  | belowParams =>
    cases fed
    exact ⟨call.call, isOpen, captured⟩
  | belowOutput output more plain apart inner =>
    obtain ⟨body, sameTool, taken⟩ := Stage.foldlM_output call.call output more plain apart inner
    rw [← isOpen] at taken
    rw [opened.foldlM_through _ _ taken] at fed
    cases fed
    exact ⟨body, rfl, by rw [sameTool]; exact captured⟩
  | detached _ ends =>
    change state.stage.takes? block = none
    simpa [Assembly.endsItem, reached] using ends

/-- A block of one line answers a captured call alike wherever it comes: below the
    parameters of the call, below its output, or detached. The call is the first in
    line there. The lines behind the block are read, and in the end the call has the
    summary of the block as its result, none if the summary is empty. Only a block
    that is noise is passed over, below parameters and detached: then the events are
    those of the lines without it.

    The call is told at the place where it began, and the block answers it, since it
    is the head of the line. From then on it does not wait, so no later line touches
    it. -/
theorem block_answers_wherever_it_comes [NestingLimits] (before between after : List Line)
    (call : BatchedCall) (block : Line) (placement : Placement) (earlier : List Event)
    (others : List Nat) (summary : Text) (captured : call.captured = true)
    (placed : Placed before call block placement between)
    (told : Assembly.ofLines before = .ok earlier)
    (waiting : Assembly.waiting? (before ++ (call.lines ++ between)) =
      some (earlier.length :: others))
    (opens : block.opensBlock = true) (closed : Block.braceDelta block ≤ 0)
    (summed : Summary.ofBlock (Block.start block) = .ok summary) :
    (placement.overlooks block = true →
      Assembly.ofLines (before ++ (call.lines ++ between) ++ block :: after) =
        Assembly.ofLines (before ++ (call.lines ++ between) ++ after)) ∧
      (placement.overlooks block = false →
        (∃ events, Assembly.ofLines (before ++ (call.lines ++ between) ++ [block]) = .ok events) ∧
          ∀ events,
            Assembly.ofLines (before ++ (call.lines ++ between) ++ block :: after) = .ok events →
              ∃ event, events[earlier.length]? = some event ∧
                event.heading? = some (.call call.tool call.extension) ∧
                event.result = Text.present? (some summary)) := by
  obtain ⟨state, settled, fed, done, line⟩ := (Assembly.waiting?_eq_some _ _).mp waiting
  have reached := (Assembly.reached?_eq_some _ state).mpr fed
  obtain ⟨first, firstFed, fedOn⟩ := Assembly.foldlM_part before _ {} state fed
  obtain ⟨_, openedFed, fedBetween⟩ := Assembly.foldlM_part call.lines between first state fedOn
  obtain ⟨last, idle, lastFed, lastDone, rfl⟩ := (Assembly.ofLines_eq_ok before earlier).mp told
  cases firstFed.symm.trans lastFed
  cases (call.foldlM_lines first idle lastDone).symm.trans openedFed
  have suits := placed.suits captured _ state rfl fedBetween reached
  have read (rest : List Line) := state.read_placed settled placement block rest _
    others summary suits opens closed done line summed
  have parted (rest : List Line) : Assembly.ofLines (before ++ (call.lines ++ between) ++ rest) =
      state.read rest := by
    rw [Assembly.ofLines_append, fed]
    rfl
  simp only [parted, read]
  constructor
  · intro overlooked
    rw [if_pos overlooked]
  · intro seen
    rw [if_neg (Bool.eq_false_iff.mp seen), if_neg (Bool.eq_false_iff.mp seen)]
    obtain ⟨event, stands, heading⟩ := Assembly.fold_stands between _ state settled
      (.call call.tool call.extension) rfl fedBetween done
    have waits := (Assembly.fold_waits _ state fed).2.2 settled done
    have fresh : event.result = none := by
      have unanswered := waits.unanswered idle.flush.events.length (by simp [line])
      simpa [resultAt, stands] using unanswered
    have rests := Assembly.rests_answered waits _ others line summary stands
    have ended : (settled.resolve summary).stage = .between :=
      (settled.resolve_stage summary).trans (state.settle_stage settled done)
    refine ⟨⟨(settled.resolve summary).flush.events, ?_⟩, ?_⟩
    · rw [Assembly.read_nil, Assembly.settle_idle _ ended]
      rfl
    · intro events told
      refine ⟨event.answered summary, rests.read after events told, ?_, ?_⟩
      · rw [event.heading?_answered, heading]
      · rw [event.answered_fresh summary fresh]

namespace NoisyBlock

/-- A notice, which is noise wherever it stands in a line. -/
def notice : Text := "All secrets loaded from cache"

/-- A block of one line that tells of a stored memory, with the notice in its payload. -/
def noisy : Line :=
  "Annotated \x7b text: \"\x7b\\\"success\\\": true, \\\"note\\\": \\\"" ++ (notice ++
    "\\\"\x7d\" \x7d")

/-- A block of one line that tells of a memory that was not stored. -/
def failed : Line := "Annotated \x7b text: \"\x7b\\\"success\\\": false\x7d\" \x7d"

/-- A line of output. -/
def output : Line := "adding"

end NoisyBlock

open NoisyBlock SmallBatch in
/-- Below output the noisy block answers. Between items it would be passed over as noise. -/
theorem noisy_block_answers_below_output : ∃ events event,
    Assembly.ofLines (store.lines ++ [output, noisy]) = .ok events ∧ events[0]? = some event ∧
      event.result = some ("stored" : Text) := by
  obtain ⟨_, seen⟩ := block_answers_wherever_it_comes [] [output] [] store noisy .belowOutput []
    [] "stored" (by decide) (.belowOutput output [] (by decide +kernel) (by decide) (by simp)) rfl
    (by decide +kernel) (by decide) (by decide +kernel) (by decide +kernel)
  obtain ⟨⟨events, told⟩, results⟩ := seen (by decide)
  obtain ⟨event, stands, _, result⟩ := results events told
  exact ⟨events, event, told, stands, result.trans (by decide)⟩

open NoisyBlock SmallBatch in
/-- Below parameters and detached the noisy block does not answer, though it does below
    output. -/
theorem noisy_block_is_overlooked :
    Summary.ofBlock (Block.start noisy) = .ok "stored" ∧
      (Assembly.ofLines (store.lines ++ [noisy])).toOption.map (List.map (·.result)) =
        some [none] ∧
      (Assembly.ofLines (store.lines ++ [output, noisy])).toOption.map (List.map (·.result)) =
        some [some ("stored" : Text)] ∧
      (Assembly.ofLines (store.lines ++ store.lines ++ [failed, noisy])).toOption.map
        (List.map (·.result)) = some [some ("failed" : Text), none] := by
  decide +kernel

end AgentRuns
