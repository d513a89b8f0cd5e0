import AgentRuns.Proofs.Transcript.Batch

/-!
# Batches with calls whose results are not captured

Only capturing calls wait in line, whatever else the batch holds. A block does
not tell whose result it is, so the blocks are handed out to the capturing calls
alone, in the order of these calls. One block is passed over: the first one, if
it stands below a call that is not captured, since it ends that call's output.

A capturing call therefore gets its own block only where the other calls before
it make up for the block that is passed over. In any other batch it gets the
block of a call further up.
-/

namespace AgentRuns

/-- The places before a call, those of capturing calls and those of others. Together they are
    all places before it. -/
theorem captured_and_others (calls : List BatchedCall) (place : Nat)
    (inside : place < calls.length) :
    capturedBefore calls place + (calls.take place).countP (!·.captured) = place := by
  have all := List.length_eq_countP_add_countP (·.captured) (l := calls.take place)
  rw [List.length_take_of_le (Nat.le_of_lt inside)] at all
  have same : (fun call : BatchedCall => decide ¬call.captured = true) = (!·.captured) := by
    funext call
    cases call.captured <;> rfl
  rw [capturedBefore, ← same]
  exact all.symm

/-- Results of a batch of any calls come in the order of its capturing calls.

The transcript is assembled to the calls, followed by what the rest is assembled
to on its own. Without the block that is passed over, the result of a capturing
call is the summary of the block at the call's place among the capturing calls,
if there is one and it is not empty. Other calls have no result. The block is
the call's own exactly where as many calls before it are not captured as blocks
are passed over. -/
theorem mixed_batch_results [NestingLimits] (log : Text) (calls : List BatchedCall)
    (blocks : List BatchedBlock) (suffix : List Line)
    (written : log.lines = calls.flatMap (·.lines) ++ (blocks.flatMap (·.written) ++ suffix))
    (boundary : Assembly.atBoundary suffix = true) :
    (Assembly.ofLines log.lines = do
      let answering := (blocks.drop (passedOver calls)).take (calls.countP (·.captured))
      let summaries ← (answering.map (·.block)).mapM Summary.ofBlock
      let rest ← Assembly.ofLines suffix
      return calls.mapIdx (fun place call =>
        { call.event with
          result :=
            if call.captured then Text.present? summaries[capturedBefore calls place]?
            else none }) ++ rest) ∧
      ∀ place, place < calls.length →
        (passedOver calls + capturedBefore calls place = place ↔
          (calls.take place).countP (!·.captured) = passedOver calls) := by
  constructor
  · rw [written, Assembly.ofLines_eq_read, Assembly.read_mixed calls blocks suffix boundary,
      Assembly.announce_calls, Assembly.foldlM_answerBy, List.length_findIdxs, ← List.map_take]
    dsimp only
    cases summed : (((blocks.drop (passedOver calls)).take (calls.countP (·.captured))).map
        (·.block)).mapM Summary.ofBlock with
    | error reason => rfl
    | ok summaries =>
      change Assembly.read _ suffix = _
      rw [Assembly.read_boundary _ suffix rfl boundary, Assembly.flush_silent _ rfl,
        handedOut_calls calls summaries]
      cases Assembly.ofLines suffix <;> rfl
  · intro place inside
    have split := captured_and_others calls place inside
    omega

namespace MixedBatch

/-- A command, whose result is not captured. -/
def shell : BatchedCall where
  header := "─── shell | developer ───"
  below := ["command: ls"]
  tool := "shell"
  extension := "developer"
  announces := by decide +kernel
  plain := by decide

/-- The block of a search that found nothing. -/
def found : BatchedBlock :=
  { SmallBatch.stored with
    inner := ["    text: \"\x7b\\\"results\\\": []\x7d\",", "\x7d"]
    noHeader := by decide
    openBefore := ClosedBlock.openBefore_of_take _ _ (by decide +kernel)
    closes := by decide +kernel }

/-- The block of a command that failed. -/
def failed : BatchedBlock :=
  { SmallBatch.stored with
    inner := ["    text: \"\x7b\\\"success\\\": false\x7d\",", "\x7d"]
    noHeader := by decide
    openBefore := ClosedBlock.openBefore_of_take _ _ (by decide +kernel)
    closes := by decide +kernel }

/-- A search and a command, with a block for each of them. -/
def shellLast : Text := Text.unlines
  ["─── memory_search | memory ───", "query: users", "", "─── shell | developer ───",
    "command: ls",
    "Annotated \x7b", "    text: \"\x7b\\\"results\\\": []\x7d\",", "\x7d",
    "Annotated \x7b", "    text: \"\x7b\\\"success\\\": false\x7d\",", "\x7d"]

/-- A search, a command and a memory, with a block for each of them. -/
def shellBetween : Text := Text.unlines
  ["─── memory_search | memory ───", "query: users", "", "─── shell | developer ───",
    "command: ls", "─── memory_add | memory ───",
    "Annotated \x7b", "    text: \"\x7b\\\"results\\\": []\x7d\",", "\x7d",
    "Annotated \x7b", "    text: \"\x7b\\\"success\\\": false\x7d\",", "\x7d",
    "Annotated \x7b", "    text: \"\x7b\\\"success\\\": true\x7d\",", "\x7d"]

end MixedBatch

open MixedBatch SmallBatch in
/-- Below a command the first block is passed over, and the search gets the
    second one. -/
theorem shell_last_results :
    (Assembly.ofLines shellLast.lines).toOption.map (List.map (·.result)) =
      some [some ("failed" : Text), none] := by
  rw [(mixed_batch_results shellLast [search, shell] [found, failed] []
    (by decide +kernel) (by decide)).1]
  decide +kernel

open MixedBatch SmallBatch in
/-- A command between a search and a memory shifts the blocks. Every call has its
    own block, in the order of the calls, and yet the memory, which was stored, gets
    the block of the command, which failed. -/
theorem memory_gets_block_of_shell :
    (shellBetween.lines = [search, shell, store].flatMap (·.lines) ++
      [found, failed, stored].flatMap (·.written)) ∧
      Summary.ofBlock stored.block = .ok ("stored" : Text) ∧
      (Assembly.ofLines shellBetween.lines).toOption.map (List.map (·.result)) =
        some [some ("0 results" : Text), none, some ("failed" : Text)] := by
  exact ⟨by decide +kernel, by decide +kernel, by decide +kernel⟩

end AgentRuns
