import AgentRuns.Proofs.Transcript.Boundary
import AgentRuns.Proofs.Transcript.History

/-!
# Blocks that answer nobody

A block that stands below a command, or between items while no call waits, is
passed over whole. What is told is the same as without it: the output of the
command goes on behind it, prose before and behind it is one piece, and no call
gets a result from it.

One thing can make such a block seen. Lines may break off inside a block that
answers a call: braces are open there, and a tool header or the end of the lines
cuts it. That block runs on through whatever is put there. What it answers then
is told by its lines and the new ones together.
-/

namespace AgentRuns

namespace ClosedBlock

/-- A block whose braces are open goes on through another block. Within the other block its
    depth is never lower than before it. -/
theorem goesOn_inside (closed : ClosedBlock) (block : Block) (isOpen : 0 < block.depth) :
    block.GoesOn closed.lines := by
  have notHeader : closed.opening.isToolHeader = false :=
    closed.opening.isOf_other .opening .header closed.opens (by decide)
  apply Block.GoesOn.cons
  · simp [Block.takes, isOpen, notHeader]
  · intro before line after split
    have inside := closed.openBefore before line after split
    have plain := closed.noHeader line (by simp [split])
    have deeper : 0 < ((block.add closed.opening).append before).depth := by
      simp only [Block.of, List.map_cons, List.sum_cons] at inside
      simp only [Block.append, Block.add]
      omega
    simp [Block.takes, deeper, plain]

end ClosedBlock

section

variable [NestingLimits]

namespace Assembly

variable (assembly : Assembly)

/-- Behind a closed block below a command, the command goes on as if it were not
    there. -/
theorem read_command_behind (text : Text) (output : List Line) (block : Block)
    (closed : block.depth ≤ 0) (rest : List Line) :
    ({ assembly with stage := .commandBlock text output block } : Assembly).read rest =
      ({ assembly with stage := .command text output } : Assembly).read rest := by
  apply read_alike
  · rfl
  · intro line _
    simp [Stage.takes?, block.takes_of_closed closed line]

/-- Below a command, blocks of one depth are passed over alike. What they hold is not looked
    at. -/
theorem read_command_depth (text : Text) (output : List Line) (block other : Block)
    (depth : block.depth = other.depth) (rest : List Line) :
    ({ assembly with stage := .commandBlock text output block } : Assembly).read rest =
      ({ assembly with stage := .commandBlock text output other } : Assembly).read rest := by
  induction rest generalizing block other with
  | nil => rfl
  | cons line rest inductionHypothesis =>
    -- The depths stay the same line by line, so both blocks end before the same line.
    have same : block.takes line = other.takes line := by simp only [Block.takes, depth]
    by_cases takes : other.takes line = true
    · rw [read_taken _ line rest (.commandBlock text output (block.add line))
          (by simp [Stage.takes?, same, takes]),
        read_taken _ line rest (.commandBlock text output (other.add line))
          (by simp [Stage.takes?, takes])]
      apply inductionHypothesis
      simp only [Block.add, depth]
    · apply read_alike
      · rfl
      · intro first isFirst
        cases isFirst
        simp [Stage.takes?, same, takes]

/-- A closed block below a command is passed over, and the output goes on behind
    it. Inside another block it is passed over with that one, if its braces
    balance exactly. -/
theorem read_below_command (text : Text) (closed : ClosedBlock) (rest : List Line)
    (below : assembly.stage.heading? = some (.command text))
    (balanced : assembly.inBlock = true → closed.block.depth = 0) :
    assembly.read (closed.lines ++ rest) = assembly.read rest := by
  have inner := closed.opening.isStructural_of_isOf .opening closed.opens (by simp)
  have passed (output : List Line) :
      ({ assembly with stage := .command text output } : Assembly).read (closed.lines ++ rest) =
        ({ assembly with stage := .command text output } : Assembly).read rest := by
    rw [ClosedBlock.lines, List.cons_append, read_taken _ closed.opening _
        (.commandBlock text output (Block.start closed.opening))
        (by simp [Stage.takes?, Stage.commandTakes?, inner, closed.opens])]
    exact (closed.read_block assembly _ rfl rest).trans
      (assembly.read_command_behind text output closed.block closed.closes rest)
  obtain ⟨events, thinking, pending, stage⟩ := assembly
  cases stage with
  | between | session | params | body | answer | detached => cases below
  | command _ output =>
    cases below
    exact passed output
  | commandBlock _ output block =>
    cases below
    by_cases isOpen : 0 < block.depth
    · have exact : closed.block.depth = 0 := balanced (by simp [inBlock, Stage.block?, isOpen])
      rw [read_open _ block closed.lines rest rfl (closed.goesOn_inside block isOpen)]
      apply read_command_depth
      simpa [Block.append, ClosedBlock.block, Block.of] using exact
    · have whole := read_command_behind ⟨events, thinking, pending, .between⟩ text output block
        (Int.not_lt.mp isOpen)
      exact (whole _).trans ((passed output).trans (whole _).symm)

/-- Behind an item a closed block is passed over if no call waits there. Its opening settles
    the item, as the line behind it would have done. -/
theorem read_behind_item (closed : ClosedBlock) (rest : List Line) (settled : Assembly)
    (refused : assembly.stage.takes? closed.opening = none)
    (ends : ∀ line, rest.head? = some line → assembly.stage.takes? line = none)
    (done : assembly.settle = .ok settled) (nobody : settled.pending = []) :
    assembly.read (closed.lines ++ rest) = assembly.read rest := by
  have opening : ∀ line, (closed.lines ++ rest).head? = some line →
      assembly.stage.takes? line = none := by
    intro line first
    cases first
    exact refused
  rw [assembly.read_settle _ opening, assembly.read_settle rest ends, done]
  change settled.read (closed.lines ++ rest) = settled.read rest
  rw [read_detached settled closed rest (assembly.settle_stage settled done),
    settled.answerBy_nobody _ nobody]
  rfl

/-- A closed block that ends a call is passed over if no call waits behind it. The call itself
    must not be captured for that. -/
theorem read_below_call (call : Call) (stage : Stage) (closed : ClosedBlock) (rest : List Line)
    (idle : assembly.stage = .between) (below : stage = .params call ∨ stage = .body call)
    (ends : ∀ line, rest.head? = some line → stage.takes? line = none)
    (nobody : (assembly.announce call).pending = []) :
    ({ assembly with stage } : Assembly).read (closed.lines ++ rest) =
      ({ assembly with stage } : Assembly).read rest := by
  obtain ⟨_, notCaptured⟩ : assembly.pending = [] ∧ capturesResult call.tool = false := by
    rw [announce_eq] at nobody
    simpa [joining, Event.isCaptured, Event.ofCall] using nobody
  rw [assembly.read_answer call stage closed rest idle below, notCaptured,
    if_neg Bool.false_ne_true, read_settle { assembly with stage } rest ends,
    assembly.settle_call call stage idle below]
  rfl

/-- A closed block that stands behind an item, neither in another block nor where
    a call waits, is passed over. -/
theorem read_beside (closed : ClosedBlock) (rest : List Line) (settled : Assembly)
    (outside : assembly.inBlock = false)
    (ends : ∀ line, rest.head? = some line → assembly.stage.takes? line = none)
    (done : assembly.settle = .ok settled) (nobody : settled.pending = []) :
    assembly.read (closed.lines ++ rest) = assembly.read rest := by
  have behindItem := fun refused =>
    assembly.read_behind_item closed rest settled refused ends done nobody
  have notConsumed := assembly.consumes_of_inBlock closed.opening outside
  obtain ⟨events, thinking, pending, stage⟩ := assembly
  cases stage with
  | between => exact behindItem rfl
  | session =>
    apply behindItem
    have noDetail := closed.opening.isOf_other .opening .detail closed.opens (by decide)
    simp only [Line.isOf] at noDetail
    simp [Stage.takes?, noDetail]
  | command text | commandBlock text =>
    apply read_below_command _ text closed rest rfl
    simp [outside]
  | params call =>
    have told := settle_call ⟨events, thinking, pending, .between⟩ call _ rfl (Or.inl rfl)
    cases told.symm.trans done
    exact read_below_call ⟨events, thinking, pending, .between⟩ call _ closed rest rfl
      (Or.inl rfl) ends nobody
  | body call =>
    have told := settle_call ⟨events, thinking, pending, .between⟩ call _ rfl (Or.inr rfl)
    cases told.symm.trans done
    exact read_below_call ⟨events, thinking, pending, .between⟩ call _ closed rest rfl
      (Or.inr rfl) ends nobody
  | answer call block | detached block =>
    apply behindItem
    simp only [Stage.consumes, Stage.block?, Option.any_some] at notConsumed
    simp [Stage.takes?, notConsumed]

/-- Where an item ends inside a block, another block goes into that one. Its lines are taken
    as lines of the open block. -/
theorem read_inside (closed : ClosedBlock) (rest : List Line) (block : Block)
    (opened : assembly.stage.block? = some block) (isOpen : 0 < block.depth)
    (ends : ∀ line, rest.head? = some line → assembly.stage.takes? line = none) :
    assembly.read (closed.lines ++ rest) = (do
      (← ({ assembly with stage := assembly.stage.withBlock (block.append closed.lines) } :
        Assembly).settle).read rest) := by
  rw [read_open assembly block closed.lines rest opened (closed.goesOn_inside block isOpen)]
  apply read_settle
  intro line first
  have refused := ends line first
  have notConsumed := assembly.stage.consumes_of_refused line refused
  simp only [Stage.consumes, opened, Option.any_some, Block.takes, isOpen, decide_true,
    Bool.true_and, Bool.not_eq_false'] at notConsumed
  exact assembly.stage.takes?_withBlock block _ line opened refused
    (by simp [Block.takes, notConsumed])

/-- Where one call waits, answers that differ are told differently. Nothing that is read later
    changes the result. -/
theorem read_resolved (call : Nat) (first second : Text) (rest : List Line) (events : List Event)
    (line : assembly.pending = [call]) (waits : Waits assembly.events assembly.pending)
    (readFirst : (assembly.resolve first).read rest = .ok events)
    (readSecond : (assembly.resolve second).read rest = .ok events) : first = second := by
  have reads (summary : Text) (told : (assembly.resolve summary).read rest = .ok events) :
      ∃ more, ({ assembly with events := [], pending := [] } : Assembly).read rest = .ok more ∧
        assembly.events.modify call (Event.answered summary) ++ more = events := by
    rw [assembly.resolve_eq summary call [] line, read_continues rest _
      { assembly with events := [], pending := [] }
      (assembly.events.modify call (Event.answered summary)) (Or.inl (by simp [behind]))] at told
    exact ok_of_map _ _ events told
  obtain ⟨more, further, told⟩ := reads first readFirst
  obtain ⟨others, again, toldAgain⟩ := reads second readSecond
  cases further.symm.trans again
  have same := List.append_cancel_right (told.trans toldAgain.symm)
  have member : call ∈ assembly.pending := by simp [line]
  have inside := capturedAt_inside assembly.events call (waits.captured call member)
  have results := congrArg (resultAt · call) same
  simp only [resultAt_answered _ _ _ _ inside, true_and, waits.unanswered call member] at results
  grind

/-- Where one call waits, what is told behind a block is told behind another one
    exactly if their summaries are the same. -/
theorem read_answered_iff (block : Block) (summary : Text) (rest : List Line)
    (events : List Event) (waits : Waits assembly.events assembly.pending)
    (someone : assembly.pending ≠ []) (nobody : (assembly.resolve summary).pending = [])
    (assembled : (assembly.resolve summary).read rest = .ok events) :
    (do (← (Summary.ofBlock block).map assembly.resolve).read rest) = .ok events ↔
      Summary.ofBlock block = .ok summary := by
  obtain ⟨call, later, line⟩ := List.exists_cons_of_ne_nil someone
  rw [resolve_eq _ summary call later line] at nobody
  cases nobody
  constructor
  · intro unchanged
    obtain ⟨_, answered, readOn⟩ := ok_of_bind _ _ events unchanged
    obtain ⟨other, summed, rfl⟩ := ok_of_map _ _ _ answered
    rw [summed, assembly.read_resolved call other summary rest events line waits readOn assembled]
  · intro same
    rw [same]
    exact assembled

/-- Whether the lines end below a command. -/
def belowCommand (lines : List Line) : Bool :=
  (reached? lines).any fun state =>
    match state.stage with
    | .command .. | .commandBlock .. => true
    | _ => false

/-- The block that answers a call and is still open where the lines end. -/
def brokenOff? (lines : List Line) : Option Block :=
  (reached? lines).bind fun state => state.captured?.filter (0 < ·.depth)

/-- Where an item ends and nobody waits behind it, another block is passed over
    exactly if it leaves the block that answers a call and is still open there the
    summary it has. -/
theorem read_at_leisure (closed : ClosedBlock) (rest : List Line) (settled : Assembly)
    (events : List Event) (waits : Waits assembly.told.events assembly.told.pending)
    (ends : ∀ line, rest.head? = some line → assembly.stage.takes? line = none)
    (done : assembly.settle = .ok settled) (nobody : settled.pending = [])
    (assembled : assembly.read rest = .ok events) :
    assembly.read (closed.lines ++ rest) = .ok events ↔
      ∀ block, assembly.captured? = some block → 0 < block.depth →
        Summary.ofBlock (block.append closed.lines) = Summary.ofBlock block := by
  cases outside : assembly.inBlock with
  | false =>
    rw [assembly.read_beside closed rest settled outside ends done nobody, assembled]
    refine iff_of_true rfl ?_
    intro block captured isOpen
    have opened := assembly.block?_of_captured? block captured
    simp [inBlock, opened, isOpen] at outside
  | true =>
    obtain ⟨block, opened, isOpen⟩ : ∃ block, assembly.stage.block? = some block ∧
        0 < block.depth := by simpa [inBlock, Option.any_eq_true] using outside
    rw [assembly.read_inside closed rest block opened isOpen ends, settle_eq,
      assembly.captured?_withBlock, assembly.told_withBlock]
    rw [assembly.read_settle rest ends, settle_eq] at assembled
    rw [settle_eq] at done
    cases captured : assembly.captured? with
    | none =>
      rw [captured] at assembled
      simpa using assembled
    | some other =>
      cases opened.symm.trans (assembly.block?_of_captured? other captured)
      rw [captured] at assembled done
      obtain ⟨summary, summed, rfl⟩ := ok_of_map _ _ settled done
      simp only [summed] at assembled
      simp only [Option.map_some, Option.some.injEq, forall_eq', isOpen, forall_const, summed]
      exact assembly.told.read_answered_iff _ summary rest events waits
        (assembly.told_pending_ne block captured) nobody assembled

end Assembly

/-- A closed block that stands below a command, or behind an item where no call
    waits, leaves the events of the whole as they are. The lines before it may end
    inside a block that answers a call: then the events stay exactly if that block
    has the same summary with the new lines as without them.

    What is told does not depend on a block that answers nobody. Where one does, it is
    the last to answer, and the events with its answer stand before all that follow. -/
theorem foreign_blocks_are_invisible (before after : List Line) (closed : ClosedBlock)
    (events : List Event) (assembled : Assembly.ofLines (before ++ after) = .ok events)
    (place : Assembly.belowCommand before = true ∧
        (Assembly.breaksOff before = true → closed.block.depth = 0) ∨
      Assembly.endsItem before after.head? = true ∧ Assembly.waiting? before = some []) :
    Assembly.ofLines (before ++ (closed.lines ++ after)) = .ok events ↔
      ∀ block, Assembly.brokenOff? before = some block →
        Summary.ofBlock (block.append closed.lines) = Summary.ofBlock block := by
  obtain ⟨_, _, fedWhole, _⟩ := (Assembly.ofLines_eq_ok (before ++ after) events).mp assembled
  obtain ⟨state, fed, _⟩ := Assembly.foldlM_part before after {} _ fedWhole
  have reached := (Assembly.reached?_eq_some before state).mpr fed
  rw [Assembly.ofLines_append, fed] at assembled ⊢
  change state.read after = .ok events at assembled
  change state.read (closed.lines ++ after) = .ok events ↔ _
  have broken (block : Block) : Assembly.brokenOff? before = some block ↔
      state.captured? = some block ∧ 0 < block.depth := by
    simp [Assembly.brokenOff?, reached, Option.filter_eq_some_iff]
  simp only [broken, and_imp]
  rcases place with ⟨below, balanced⟩ | ⟨ends, nobody⟩
  · simp only [Assembly.breaksOff, fed] at balanced
    simp only [Assembly.belowCommand, reached, Option.any_some] at below
    obtain ⟨text, command, notCaptured⟩ : ∃ text,
        state.stage.heading? = some (.command text) ∧ state.captured? = none := by
      cases stage : state.stage with
      | between | session | params | body | answer | detached => simp [stage] at below
      | command | commandBlock => simp [Stage.heading?, Assembly.captured?, stage]
    rw [state.read_below_command text closed after command balanced]
    simp [assembled, notCaptured]
  · obtain ⟨_, toldWaits, _⟩ := Assembly.fold_waits before state fed
    obtain ⟨same, settled, sameFed, done, nobodyWaits⟩ :=
      (Assembly.waiting?_eq_some before []).mp nobody
    cases fed.symm.trans sameFed
    apply state.read_at_leisure closed after settled events toldWaits _ done nobodyWaits assembled
    intro line first
    simpa [Assembly.endsItem, reached, first] using ends

end

namespace ForeignBlock

/-- A thought, and a command with a line of output. -/
def listing : List Line := ["I look.", "$ ls", "src"]

/-- Another line of output. -/
def output : List Line := ["docs"]

/-- A search whose block has lost its end. -/
def searching : List Line := ["─── memory_search | memory ───", "Annotated \x7b"]

/-- The call behind it. -/
def call : List Line := ["─── shell | developer ───"]

end ForeignBlock

open ForeignBlock in
/-- A block in the output of a command is passed over: the output goes on behind it. -/
theorem block_in_output_is_passed_over : ∃ events,
    Assembly.ofLines (listing ++ output) = .ok events ∧
      events.map (·.content) = (["I look.", "$ ls\nsrc\ndocs"] : List Text) ∧
      Assembly.ofLines (listing ++ (ClosedBlock.stored.lines ++ output)) = .ok events := by
  have contents : (Assembly.ofLines (listing ++ output)).toOption.map (List.map (·.content)) =
      some (["I look.", "$ ls\nsrc\ndocs"] : List Text) := by decide +kernel
  have whole : (Assembly.brokenOff? listing).isNone = true := by decide +kernel
  cases assembled : Assembly.ofLines (listing ++ output) with
  | error reason => simp [assembled, Except.toOption] at contents
  | ok events =>
    rw [assembled] at contents
    refine ⟨events, rfl, Option.some.inj contents, ?_⟩
    rw [foreign_blocks_are_invisible listing output ClosedBlock.stored events assembled
      (Or.inl (by decide +kernel))]
    simp [Option.isNone_iff_eq_none.mp whole]

open ForeignBlock in
/-- The block of the search has lost its end, and a tool header cuts it. No call waits
    there. A block that is put there goes into that one and answers the search. -/
theorem broken_off_block_takes_in_another :
    Assembly.endsItem searching call.head? = true ∧
      Assembly.waiting? searching = some [] ∧
      (Assembly.ofLines (searching ++ call)).toOption.map (List.map (·.result)) =
        some [none, none] ∧
      (Assembly.ofLines (searching ++ (ClosedBlock.stored.lines ++ call))).toOption.map
        (List.map (·.result)) = some [some ("stored" : Text), none] := by
  decide +kernel

end AgentRuns
