import AgentRuns.Proofs.Transcript.Boundary
import Mathlib.Data.List.Induction

/-!
# Batches of calls

A batch is a row of calls with nothing but their parameters below them, and
behind the last of them the blocks that answer them. The first block ends the
last call's output and yet answers the first call; the others stand detached.
All of them are handed out along the line of the calls: the summary of the first
block is the result of the first call, and so on until either run out. Blocks
beyond the last call are passed over.
-/

namespace AgentRuns

/-- A call in a batch: a header, and below it nothing but parameters and noise. -/
structure BatchedCall where
  header : Line
  below : List Line
  tool : Text
  extension : Text
  announces : header.toolHeader? = some (tool, extension)
  plain : ∀ line ∈ below, line.isNoise = true ∨ (line.parameter?).isSome = true

namespace BatchedCall

/-- The lines of the call. -/
def lines (call : BatchedCall) : List Line := call.header :: call.below

/-- The call as it is read. -/
def call (batched : BatchedCall) : Call :=
  { tool := batched.tool
    extension := batched.extension
    params := Line.putParams [] batched.below }

/-- Whether the result of the call is captured, so that the call waits for it. -/
def captured (batched : BatchedCall) : Bool := capturesResult batched.tool

/-- The event of the call before any answer. -/
def event (batched : BatchedCall) : Event :=
  .ofCall batched.tool batched.extension (Line.putParams [] batched.below) []

/-- The header begins a call. No other test comes first, as a header is no noise. -/
theorem begins (batched : BatchedCall) :
    batched.header.heading? = some (.call batched.tool batched.extension) :=
  batched.header.heading?_of_toolHeader? batched.tool batched.extension batched.announces

/-- A batched call is read to its end, whatever follows. Its lines are its header and its
    parameters. -/
theorem read [NestingLimits] (batched : BatchedCall) (assembly : Assembly) (rest : List Line)
    (idle : assembly.stage = .between) :
    assembly.read (batched.lines ++ rest) =
      ({ assembly.flush with stage := .params batched.call } : Assembly).read rest := by
  rw [lines, List.cons_append, Assembly.read_begin assembly _ _ _ idle batched.begins]
  exact assembly.flush.read_params _ batched.below rest batched.plain

/-- The header of a batched call settles the call before it. That one is told without output. -/
theorem read_below [NestingLimits] (batched : BatchedCall) (assembly : Assembly) (call : Call)
    (rest : List Line) (idle : assembly.stage = .between) :
    ({ assembly with stage := .params call } : Assembly).read (batched.lines ++ rest) =
      (assembly.announce call).read (batched.lines ++ rest) := by
  rw [Assembly.read_settle, assembly.settle_call call _ idle (Or.inl rfl)]
  · rfl
  · intro line first
    cases first
    exact (Stage.params call).takes?_of_heading? _ _ batched.begins rfl

end BatchedCall

/-- Where all calls are captured, all places wait. -/
theorem BatchedCall.findIdxs_captured (calls : List BatchedCall)
    (capturing : ∀ call ∈ calls, call.captured = true) :
    calls.findIdxs (·.captured) = List.range calls.length := by
  induction calls using List.reverseRecOn with
  | nil => rfl
  | append_singleton calls last inductionHypothesis =>
    have earlier := fun call member => capturing call (List.mem_append_left [last] member)
    rw [List.findIdxs_append, inductionHypothesis earlier, List.findIdxs_singleton,
      if_pos (capturing last (by simp)), List.length_append, List.length_singleton,
      List.range_succ, Nat.zero_add]

/-- How many blocks of a batch are passed over. The first block ends the last
    call, and it answers nobody if that call is not captured. -/
def passedOver (calls : List BatchedCall) : Nat :=
  if calls.getLast?.all (·.captured) then 0 else 1

/-- How many calls before a place are captured. -/
def capturedBefore (calls : List BatchedCall) (place : Nat) : Nat :=
  (calls.take place).countP (·.captured)

/-- A closed block with the noise behind it. -/
structure BatchedBlock extends ClosedBlock where
  noise : List Line
  silent : ∀ line ∈ noise, line.isNoise = true

/-- The lines of the block and the noise behind it. -/
def BatchedBlock.written (batched : BatchedBlock) : List Line := batched.lines ++ batched.noise

namespace Assembly

/-- Blocks between items answer along the line. The induction is on the blocks. -/
theorem read_blocks [NestingLimits] (assembly : Assembly) (blocks : List BatchedBlock)
    (rest : List Line) (idle : assembly.stage = .between) :
    assembly.read (blocks.flatMap (·.written) ++ rest) =
      (do (← (blocks.map (·.block)).foldlM answerBy assembly).read rest) := by
  induction blocks generalizing assembly with
  | nil => rfl
  | cons first blocks inductionHypothesis =>
    rw [List.flatMap_cons, BatchedBlock.written, List.append_assoc, List.append_assoc,
      read_detached assembly first.toClosedBlock _ idle, List.map_cons, List.foldlM_cons]
    cases answered : assembly.answerBy first.block with
    | error reason => rfl
    | ok next =>
      have nextIdle := (answerBy_keeps assembly next first.block answered).1.trans idle
      change next.read (first.noise ++ _) = _
      rw [read_noise next first.noise _ nextIdle first.silent]
      exact inductionHypothesis next nextIdle

/-- The calls of a batch are announced one after the other; the last of them is
    still open. -/
theorem read_calls [NestingLimits] (assembly : Assembly) (calls : List BatchedCall)
    (last : BatchedCall) (rest : List Line) (idle : assembly.stage = .between)
    (silent : assembly.thinking = []) :
    assembly.read ((calls ++ [last]).flatMap (·.lines) ++ rest) =
      ({ (calls.map (·.call)).foldl announce assembly with
        stage := .params last.call } : Assembly).read rest := by
  induction calls generalizing assembly with
  | nil =>
    rw [List.nil_append, List.flatMap_singleton, last.read assembly rest idle,
      flush_silent assembly silent]
    rfl
  | cons call calls inductionHypothesis =>
    have announced : (assembly.announce call.call).thinking = [] := by
      rw [announce_eq]
      exact silent
    have further := inductionHypothesis (assembly.announce call.call)
      ((announce_stage assembly call.call).trans idle) announced
    obtain ⟨next, others, split⟩ : ∃ next others, calls ++ [last] = next :: others :=
      List.exists_cons_of_ne_nil (by simp)
    rw [split] at further
    rw [List.cons_append, List.flatMap_cons, List.append_assoc, call.read assembly _ idle,
      flush_silent assembly silent, split, List.flatMap_cons, List.append_assoc,
      next.read_below assembly call.call _ idle, ← List.append_assoc, ← List.flatMap_cons]
    exact further

/-- The capturing calls of a batch stand in line in their order. The induction is on the
    calls, from the last one. -/
theorem announce_calls (calls : List BatchedCall) :
    (calls.map (·.call)).foldl announce {} =
      { events := calls.map (·.event), pending := calls.findIdxs (·.captured) } := by
  induction calls using List.reverseRecOn with
  | nil => rfl
  | append_singleton calls last inductionHypothesis =>
    have joined : joining (calls.map (·.event)) (calls.findIdxs (·.captured)) last.event =
        (calls ++ [last]).findIdxs (·.captured) := by
      have waits : last.event.isCaptured = last.captured := by
        simp [Event.isCaptured, BatchedCall.event, Event.ofCall, BatchedCall.captured]
      rw [List.findIdxs_append, List.findIdxs_singleton, joining, waits, List.length_map,
        Nat.zero_add]
    rw [List.map_append, List.foldl_append, inductionHypothesis, List.map_append, ← joined]
    exact announce_eq _ last.call

/-- A batch of capturing calls alone stands in line call by call. -/
theorem announce_batch (calls : List BatchedCall)
    (capturing : ∀ call ∈ calls, capturesResult call.tool = true) :
    (calls.map (·.call)).foldl announce {} =
      { events := calls.map (·.event), pending := List.range calls.length } := by
  rw [announce_calls, BatchedCall.findIdxs_captured calls capturing]

/-- Blocks below the last call of a batch answer along the line, at the end of
    which a capturing call stands. The first block below any other call only ends
    that call. -/
theorem read_blocks_below [NestingLimits] (assembly : Assembly) (last : BatchedCall)
    (blocks : List BatchedBlock) (suffix : List Line) (idle : assembly.stage = .between)
    (boundary : atBoundary suffix = true) :
    ({ assembly with stage := .params last.call } : Assembly).read
        (blocks.flatMap (·.written) ++ suffix) =
      (do (← ((blocks.drop (if last.captured then 0 else 1)).map (·.block)).foldlM answerBy
        (assembly.announce last.call)).read suffix) := by
  have announcedIdle : (assembly.announce last.call).stage = .between :=
    (announce_stage assembly last.call).trans idle
  cases blocks with
  | nil =>
    rw [List.flatMap_nil, List.nil_append, List.drop_nil, read_settle,
      settle_call assembly last.call _ idle (Or.inl rfl)]
    · rfl
    · intro line first
      rw [atBoundary, first] at boundary
      obtain ⟨heading, begins, _⟩ := line.heading?_of_abandons boundary
      exact (Stage.params last.call).takes?_of_heading? line heading begins rfl
  | cons first blocks =>
    rw [List.flatMap_cons, BatchedBlock.written, List.append_assoc, List.append_assoc,
      read_answer assembly last.call _ first.toClosedBlock _ idle (Or.inl rfl)]
    cases captured : last.captured with
    | false =>
      have notCaptured : capturesResult last.call.tool = false := captured
      rw [notCaptured, if_neg Bool.false_ne_true, if_neg Bool.false_ne_true,
        read_noise _ first.noise _ announcedIdle first.silent]
      exact read_blocks _ blocks suffix announcedIdle
    | true =>
      have isCaptured : capturesResult last.call.tool = true := captured
      rw [isCaptured, if_pos rfl, if_pos rfl, List.drop_zero, List.map_cons, List.foldlM_cons]
      cases answered : (assembly.announce last.call).answerBy first.block with
      | error reason => rfl
      | ok next =>
        have nextIdle := (answerBy_keeps _ next first.block answered).1.trans announcedIdle
        change next.read (first.noise ++ _) = _
        rw [read_noise next first.noise _ nextIdle first.silent]
        exact read_blocks next blocks suffix nextIdle

/-- A batch is announced, and then its blocks answer along the line, save for
    the one that is passed over. -/
theorem read_mixed [NestingLimits] (calls : List BatchedCall) (blocks : List BatchedBlock)
    (suffix : List Line) (boundary : atBoundary suffix = true) :
    read {} (calls.flatMap (·.lines) ++ (blocks.flatMap (·.written) ++ suffix)) =
      (do (← ((blocks.drop (passedOver calls)).map (·.block)).foldlM answerBy
        ((calls.map (·.call)).foldl announce {})).read suffix) := by
  rcases calls.eq_nil_or_concat with rfl | ⟨earlier, last, rfl⟩
  · exact read_blocks {} blocks suffix rfl
  · rw [List.concat_eq_append, read_calls {} earlier last _ rfl rfl, List.map_append,
      List.foldl_append, passedOver, List.getLast?_concat]
    refine read_blocks_below _ last blocks suffix ?_ boundary
    rw [announce_calls]

/-- A batch of capturing calls alone passes over no block. Each block finds a call in line, as
    long as there is one. -/
theorem read_batch [NestingLimits] (calls : List BatchedCall) (blocks : List BatchedBlock)
    (suffix : List Line) (capturing : ∀ call ∈ calls, capturesResult call.tool = true)
    (boundary : atBoundary suffix = true) :
    read {} (calls.flatMap (·.lines) ++ (blocks.flatMap (·.written) ++ suffix)) =
      (do (← (blocks.map (·.block)).foldlM answerBy
        ((calls.map (·.call)).foldl announce {})).read suffix) := by
  have nonePassed : passedOver calls = 0 := by
    apply if_pos
    rw [Option.all_eq_true]
    intro last isLast
    exact capturing last (List.mem_of_getLast? isLast)
  rw [read_mixed calls blocks suffix boundary, nonePassed, List.drop_zero]

end Assembly

/-- Answers are handed out to the capturing calls of a batch in their order. The other calls
    are passed over and keep no result. -/
theorem handedOut_calls (calls : List BatchedCall) (summaries : List Text) :
    handedOut (calls.map (·.event)) (calls.findIdxs (·.captured)) summaries =
      calls.mapIdx fun place call =>
        { call.event with
          result :=
            if call.captured then Text.present? summaries[capturedBefore calls place]?
            else none } := by
  induction calls using List.reverseRecOn with
  | nil => rfl
  | append_singleton calls last inductionHypothesis =>
    have inside : ∀ place ∈ calls.findIdxs (·.captured),
        place < (calls.map (·.event)).length := by
      intro place member
      rw [List.length_map]
      exact (List.mem_findIdxs_iff_exists_getElem_pos.mp member).1
    have waiting : (calls.findIdxs (·.captured)).length =
        capturedBefore (calls ++ [last]) calls.length := by
      rw [List.length_findIdxs, capturedBefore, List.take_left]
    have earlier : ∀ place, place < calls.length →
        capturedBefore (calls ++ [last]) place = capturedBefore calls place := by
      intro place bounded
      rw [capturedBefore, List.take_append_of_le_length (Nat.le_of_lt bounded), capturedBefore]
    have others : handedOut (calls.map (·.event)) (calls.findIdxs (·.captured)) summaries =
        calls.mapIdx fun place call =>
          { call.event with
            result :=
              if call.captured then
                Text.present? summaries[capturedBefore (calls ++ [last]) place]?
              else none } := by
      rw [inductionHypothesis, List.mapIdx_eq_mapIdx_iff]
      intro place bounded
      rw [earlier place bounded]
    rw [List.mapIdx_concat, ← others, List.findIdxs_append, List.findIdxs_singleton,
      List.map_append, List.map_singleton, Nat.zero_add]
    cases captured : last.captured with
    | true =>
      have joined := handedOut_joined (calls.map (·.event)) last.event _ summaries inside rfl
      rw [List.length_map, waiting] at joined
      rw [if_pos rfl, joined, if_pos rfl]
    | false =>
      rw [if_neg Bool.false_ne_true, List.append_nil, handedOut_append _ _ _ summaries inside,
        if_neg Bool.false_ne_true]
      rfl

/-- Answers are handed out to a batch of capturing calls alone call by call. -/
theorem handedOut_batch (calls : List BatchedCall) (summaries : List Text)
    (capturing : ∀ call ∈ calls, call.captured = true) :
    handedOut (calls.map (·.event)) (List.range calls.length) summaries =
      calls.mapIdx fun place call =>
        { call.event with result := Text.present? summaries[place]? } := by
  rw [← BatchedCall.findIdxs_captured calls capturing, handedOut_calls,
    List.mapIdx_eq_mapIdx_iff]
  intro place inside
  have allBefore : capturedBefore calls place = place := by
    have all := List.countP_eq_length.mpr fun call member =>
      capturing call (List.mem_of_mem_take (i := place) member)
    rw [capturedBefore, all, List.length_take_of_le (Nat.le_of_lt inside)]
  rw [if_pos (capturing _ (List.getElem_mem inside)), allBefore]

/-- Results of a batch come in the order of its calls.

A transcript of capturing calls, of closed blocks behind them and of a rest that
is empty or begins with another item is assembled to the calls, followed by what
the rest is assembled to on its own. The result of each call is the summary of the block at
the call's place, if there is one and it is not empty. A block behind the last
call's is not even looked at. -/
theorem batch_results_in_call_order [NestingLimits] (log : Text) (calls : List BatchedCall)
    (blocks : List BatchedBlock) (suffix : List Line)
    (written : log.lines = calls.flatMap (·.lines) ++ (blocks.flatMap (·.written) ++ suffix))
    (capturing : ∀ call ∈ calls, capturesResult call.tool = true)
    (boundary : Assembly.atBoundary suffix = true) :
    Assembly.ofLines log.lines = (do
      let summaries ← ((blocks.take calls.length).map (·.block)).mapM Summary.ofBlock
      let rest ← Assembly.ofLines suffix
      return calls.mapIdx (fun place call =>
        { call.event with result := Text.present? summaries[place]? }) ++ rest) := by
  rw [written, Assembly.ofLines_eq_read, Assembly.read_batch calls blocks suffix capturing boundary,
    Assembly.announce_batch calls capturing, Assembly.foldlM_answerBy, List.length_range,
    ← List.map_take]
  cases summed : ((blocks.take calls.length).map (·.block)).mapM Summary.ofBlock with
  | error reason => rfl
  | ok summaries =>
    change Assembly.read _ suffix = _
    rw [Assembly.read_boundary _ suffix rfl boundary, Assembly.flush_silent _ rfl,
      handedOut_batch calls summaries capturing]
    cases Assembly.ofLines suffix <;> rfl

namespace SmallBatch

/-- A search with its query. -/
def search : BatchedCall where
  header := "─── memory_search | memory ───"
  below := ["query: users", ""]
  tool := "memory_search"
  extension := "memory"
  announces := by decide +kernel
  plain := by decide

/-- A stored memory. -/
def store : BatchedCall where
  header := "─── memory_add | memory ───"
  below := []
  tool := "memory_add"
  extension := "memory"
  announces := by decide +kernel
  plain := by decide

/-- A block without a payload. -/
def blank : BatchedBlock :=
  { ClosedBlock.stored with
    inner := ["    annotations: None,", "\x7d"]
    noHeader := by decide
    openBefore := ClosedBlock.openBefore_of_take _ _ (by decide +kernel)
    closes := by decide +kernel
    noise := [""]
    silent := by decide }

/-- A block that tells of a stored memory. -/
def stored : BatchedBlock where
  toClosedBlock := ClosedBlock.stored
  noise := []
  silent := by decide

/-- A batch with its blocks, and a command behind them. -/
def log : Text := Text.unlines
  ["─── memory_search | memory ───", "query: users", "", "─── memory_add | memory ───",
    "Annotated \x7b", "    annotations: None,", "\x7d", "",
    "Annotated \x7b", "    text: \"\x7b\\\"success\\\": true\x7d\",", "\x7d", "$ git push"]

end SmallBatch

open SmallBatch in
/-- The block without a payload uses up the search, and the memory is stored. -/
theorem small_batch_results :
    (Assembly.ofLines SmallBatch.log.lines).toOption.map (List.map (·.result)) =
      some [none, some ("stored" : Text), none] := by
  rw [batch_results_in_call_order SmallBatch.log [search, store] [blank, stored] ["$ git push"]
    (by decide +kernel) (by decide) (by decide)]
  decide +kernel

end AgentRuns
