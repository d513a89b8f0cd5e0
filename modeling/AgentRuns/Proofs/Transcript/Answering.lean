import AgentRuns.Proofs.Transcript.Reading
import AgentRuns.Proofs.Transcript.Waiting

/-!
# Answering the calls in line

A block between items answers whoever has waited longest, and so does the block
below a capturing call: the call has joined the line by then. If no call waits,
the block is passed over and its payload is not looked at.

Answers are handed out along the line. The first summary goes to the first
place, the second to the second one, until either the summaries or the places
run out. Events told behind the line are out of reach, and a call that joins the
line gets the summary that those before it leave for it, if there is one.
-/

namespace AgentRuns

namespace Assembly

/-- A call is told, and whoever is captured joins the line. It joins with the place of its own
    event, which is the last one. -/
theorem announce_eq (assembly : Assembly) (call : Call) :
    let event := Event.ofCall call.tool call.extension call.params call.output
    assembly.announce call =
      { assembly with
        events := assembly.events ++ [event]
        pending := joining assembly.events assembly.pending event } := by
  have captured : (Event.ofCall call.tool call.extension call.params call.output).isCaptured =
      capturesResult call.tool := by simp [Event.isCaptured, Event.ofCall]
  simp only [announce, joining, captured]
  split <;> simp [emit, Event.ofCall]

/-- An answer goes to the head of the line. An empty one takes it off the line and leaves its
    event alone. -/
theorem resolve_eq (assembly : Assembly) (summary : Text) (call : Nat) (later : List Nat)
    (line : assembly.pending = call :: later) :
    assembly.resolve summary =
      { assembly with
        pending := later
        events := assembly.events.modify call (Event.answered summary) } := by
  unfold resolve
  rw [line]
  rfl

section

variable [NestingLimits]

/-- The assembly behind a block that answers whoever has waited longest. -/
def answerBy (assembly : Assembly) (block : Block) : Except SummaryError Assembly :=
  if assembly.pending.isEmpty then return assembly
  else return assembly.resolve (← Summary.ofBlock block)

/-- Where nobody waits a block answers nobody. It is not even decoded. -/
theorem answerBy_nobody (assembly : Assembly) (block : Block)
    (nobody : assembly.pending = []) :
    assembly.answerBy block = .ok assembly := by
  simp [answerBy, nobody, pure, Except.pure]

/-- An answer opens nothing and gathers no prose. Events and the line are all that it can
    change. -/
theorem answerBy_keeps (assembly answered : Assembly) (block : Block)
    (done : assembly.answerBy block = .ok answered) :
    answered.stage = assembly.stage ∧ answered.thinking = assembly.thinking := by
  unfold answerBy at done
  split at done
  · cases done
    exact ⟨rfl, rfl⟩
  · obtain ⟨summary, _, resolved⟩ := ok_of_bind _ _ answered done
    cases resolved
    unfold resolve
    split <;> exact ⟨rfl, rfl⟩

/-- A block between items whose braces balance answers whoever has waited longest. The line
    behind it is read as one between items. -/
theorem read_detached_closed (assembly : Assembly) (block : Block) (rest : List Line)
    (idle : assembly.stage = .between) (closed : block.depth ≤ 0) :
    ({ assembly with stage := .detached block } : Assembly).read rest =
      (do (← assembly.answerBy block).read rest) := by
  rw [read_settle]
  · simp only [settle, assembly.closed_eq idle]
    rfl
  · intro line _
    simp [Stage.takes?, block.takes_of_closed closed line]

/-- A block below a call whose braces balance ends the call. If the call is captured,
    the block answers whoever has waited longest, at the least the call itself. -/
theorem read_answer_closed (assembly : Assembly) (call : Call) (block : Block) (rest : List Line)
    (idle : assembly.stage = .between) (closed : block.depth ≤ 0) :
    ({ assembly with stage := .answer call block } : Assembly).read rest =
      if capturesResult call.tool then
        (do (← (assembly.announce call).answerBy block).read rest)
      else (assembly.announce call).read rest := by
  rw [read_settle]
  · simp only [settle, assembly.closed_eq idle]
    split
    · rename_i captured
      have waits : (assembly.announce call).pending ≠ [] := by simp [announce, captured]
      simp [answerBy, waits]
    · rfl
  · intro line _
    simp [Stage.takes?, block.takes_of_closed closed line]

end

/-- A line between items that opens a block is read into it. The prose that was gathered
    before goes on behind it. -/
theorem start_opening (assembly : Assembly) (line : Line) (opens : line.opensBlock = true)
    (plain : line.isNoise = false) :
    assembly.start line = { assembly with stage := .detached (Block.start line) } := by
  have inner := line.isStructural_of_isOf .opening opens (by simp)
  simp [start_eq, line.heading?_of_isStructural inner, plain, opens]

/-- The lines of a closed block between items are read into one. No line behind them belongs
    to it. -/
theorem read_detached [NestingLimits] (assembly : Assembly) (closed : ClosedBlock)
    (rest : List Line) (idle : assembly.stage = .between) :
    assembly.read (closed.lines ++ rest) =
      (do (← assembly.answerBy closed.block).read rest) := by
  rw [ClosedBlock.lines, List.cons_append, read_idle assembly closed.opening _ idle,
    assembly.start_opening closed.opening closed.opens closed.plain,
    closed.read_block assembly _ rfl rest, Stage.withBlock]
  exact assembly.read_detached_closed closed.block rest idle closed.closes

/-- The lines of a closed block below a call are read into one. The call is told before the
    block answers anybody. -/
theorem read_answer [NestingLimits] (assembly : Assembly) (call : Call) (stage : Stage)
    (closed : ClosedBlock) (rest : List Line) (idle : assembly.stage = .between)
    (below : stage = .params call ∨ stage = .body call) :
    ({ assembly with stage } : Assembly).read (closed.lines ++ rest) =
      if capturesResult call.tool then
        (do (← (assembly.announce call).answerBy closed.block).read rest)
      else (assembly.announce call).read rest := by
  have opened : stage.takes? closed.opening =
      some (.answer call (Block.start closed.opening)) := by
    rcases below with rfl | rfl <;>
      simp [Stage.takes?, Stage.callTakes?_opening call _ closed.opens, closed.plain,
        closed.opening.parameter?_of_opensBlock closed.opens]
  rw [ClosedBlock.lines, List.cons_append, read_taken _ closed.opening _ _ opened]
  exact (closed.read_block assembly (.answer call (Block.start closed.opening)) rfl rest).trans
    (assembly.read_answer_closed call closed.block rest idle closed.closes)

end Assembly

/-- A change at a place before later elements does not reach them. -/
theorem modify_before {α : Type} (earlier later : List α) (place : Nat) (change : α → α)
    (inside : place < earlier.length) :
    (earlier ++ later).modify place change = earlier.modify place change ++ later := by
  apply List.ext_getElem?
  intro other
  simp only [List.getElem?_modify, List.getElem?_append, List.length_modify]
  by_cases same : place = other
  · subst same
    simp [inside]
  · simp [same]

/-- A change behind earlier elements does not reach them. -/
theorem modify_behind {α : Type} (earlier later : List α) (place : Nat) (change : α → α) :
    (earlier ++ later).modify (earlier.length + place) change =
      earlier ++ later.modify place change := by
  induction earlier with
  | nil => simp
  | cons first earlier inductionHypothesis =>
    rw [List.length_cons, Nat.add_right_comm, List.cons_append, List.modify_succ_cons,
      inductionHypothesis, List.cons_append]

/-- The events with summaries handed out along a line of places. -/
def handedOut (events : List Event) : List Nat → List Text → List Event
  | place :: places, summary :: summaries =>
    handedOut (events.modify place (Event.answered summary)) places summaries
  | _, _ => events

/-- Nothing is handed out where there are no summaries. -/
theorem handedOut_nil (events : List Event) (places : List Nat) :
    handedOut events places [] = events := by
  unfold handedOut
  split
  · rename_i impossible
    cases impossible
  · rfl

/-- Events behind the line are out of its reach. All places of the line are before them. -/
theorem handedOut_append (events later : List Event) (places : List Nat) (summaries : List Text)
    (inside : ∀ place ∈ places, place < events.length) :
    handedOut (events ++ later) places summaries =
      handedOut events places summaries ++ later := by
  induction places generalizing events summaries with
  | nil => rfl
  | cons place places inductionHypothesis =>
    cases summaries with
    | nil => rfl
    | cons summary summaries =>
      have first : place < events.length := inside place List.mem_cons_self
      have apart : (events ++ later).modify place (Event.answered summary) =
          events.modify place (Event.answered summary) ++ later :=
        modify_before events later place _ first
      rw [handedOut, handedOut, apart]
      refine inductionHypothesis _ summaries ?_
      intro other member
      rw [List.length_modify]
      exact inside other (List.mem_cons_of_mem place member)

/-- The first answer to an event is its result, unless it is empty. An empty one leaves it
    without a result. -/
theorem Event.answered_fresh (event : Event) (summary : Text) (fresh : event.result = none) :
    event.answered summary = { event with result := Text.present? (some summary) } := by
  unfold Event.answered Text.present?
  cases summary with
  | nil =>
    change event = { event with result := none }
    rw [← fresh]
  | cons => rfl

/-- An event without an answer has no result. This is the form in which it meets those with
    one. -/
theorem Event.unanswered (event : Event) (fresh : event.result = none) :
    { event with result := Text.present? none } = event := by
  change { event with result := none } = event
  rw [← fresh]

/-- Whoever joins the line gets the summary that those before leave. The induction is on the
    line. -/
theorem handedOut_joined (events : List Event) (event : Event) (places : List Nat)
    (summaries : List Text) (inside : ∀ place ∈ places, place < events.length)
    (fresh : event.result = none) :
    handedOut (events ++ [event]) (places ++ [events.length]) summaries =
      handedOut events places summaries ++
        [{ event with result := Text.present? summaries[places.length]? }] := by
  induction places generalizing events summaries with
  | nil =>
    cases summaries with
    | nil =>
      rw [handedOut_nil, handedOut_nil, List.getElem?_nil, event.unanswered fresh]
    | cons summary summaries =>
      have last : (events ++ [event]).modify events.length (Event.answered summary) =
          events ++ [event.answered summary] := modify_behind events [event] 0 _
      rw [List.nil_append, handedOut, last, event.answered_fresh summary fresh]
      rfl
  | cons place places inductionHypothesis =>
    cases summaries with
    | nil =>
      rw [handedOut_nil, handedOut_nil, List.getElem?_nil, event.unanswered fresh]
    | cons summary summaries =>
      have first : place < events.length := inside place List.mem_cons_self
      have others : ∀ other ∈ places,
          other < (events.modify place (Event.answered summary)).length := by
        intro other member
        rw [List.length_modify]
        exact inside other (List.mem_cons_of_mem place member)
      have joined := inductionHypothesis (events.modify place (Event.answered summary))
        summaries others
      rw [List.length_modify] at joined
      rw [List.cons_append, handedOut, modify_before events [event] place _ first, joined]
      rfl

/-- Blocks in a row answer along the line. Their payloads are looked at in their
    order, as long as somebody waits. -/
theorem Assembly.foldlM_answerBy [NestingLimits] (assembly : Assembly) (blocks : List Block) :
    blocks.foldlM answerBy assembly = (do
      let summaries ← (blocks.take assembly.pending.length).mapM Summary.ofBlock
      return { assembly with
        events := handedOut assembly.events assembly.pending summaries
        pending := assembly.pending.drop blocks.length }) := by
  induction blocks generalizing assembly with
  | nil =>
    rw [List.take_nil, List.mapM_nil, List.foldlM_nil]
    change _ = Except.ok _
    rw [handedOut_nil]
    rfl
  | cons block blocks inductionHypothesis =>
    rw [List.foldlM_cons]
    cases line : assembly.pending with
    | nil =>
      have others := inductionHypothesis assembly
      rw [line, List.drop_nil] at others
      rw [assembly.answerBy_nobody block line, List.drop_nil]
      exact others
    | cons place later =>
      cases summed : Summary.ofBlock block with
      | error reason => simp [answerBy, line, summed, bind, Except.bind]
      | ok summary =>
        have answered : assembly.answerBy block = .ok (assembly.resolve summary) := by
          simp [answerBy, line, summed, pure, Except.pure, bind, Except.bind]
        rw [answered, assembly.resolve_eq summary place later line]
        refine (inductionHypothesis _).trans ?_
        rw [List.length_cons, List.take_succ_cons, List.mapM_cons, summed]
        change _ = (do
          let summaries ← (do return summary :: (← (blocks.take later.length).mapM Summary.ofBlock))
          _)
        simp [handedOut]

end AgentRuns
