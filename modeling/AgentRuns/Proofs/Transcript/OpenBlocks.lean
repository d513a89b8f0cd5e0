import AgentRuns.Proofs.Block.Extent
import AgentRuns.Proofs.Transcript.Steps

/-!
# Open blocks

A block that is open stands below a command, below a call or on its own. It takes
its lines all the same, and they change nothing but the block. So a block ends at
one and the same place, whether it is passed over there or captured: the first
place where it has to stop.
-/

namespace AgentRuns

namespace Stage

/-- The same item with another block in place of the open one. -/
def withBlock (stage : Stage) (block : Block) : Stage :=
  match stage with
  | .commandBlock text output _ => .commandBlock text output block
  | .answer call _ => .answer call block
  | .detached _ => .detached block
  | other => other

variable (stage : Stage) (block : Block)

/-- A block that takes the place of the open one is the open one then. -/
theorem block?_withBlock (other : Block) (opened : stage.block? = some other) :
    (stage.withBlock block).block? = some block := by
  cases stage with
  | between | session | command | params | body => cases opened
  | commandBlock | answer | detached => rfl

/-- The open block in its own place changes nothing. -/
theorem withBlock_self (opened : stage.block? = some block) : stage.withBlock block = stage := by
  cases stage with
  | between | session | command | params | body => cases opened
  | commandBlock | answer | detached =>
    cases opened
    rfl

/-- Of two blocks that take the place of the open one the second counts. -/
theorem withBlock_withBlock (other : Block) :
    (stage.withBlock other).withBlock block = stage.withBlock block := by
  cases stage <;> rfl

/-- Below a call a line that opens a block opens the one that ends the call. No test that
    comes before finds anything in it. -/
theorem callTakes?_opening (call : Call) (line : Line) (opens : line.opensBlock = true) :
    callTakes? call line = some (.answer call (Block.start line)) := by
  have inner := line.isStructural_of_isOf .opening opens (by simp)
  simp [callTakes?, inner, opens]

/-- A line that the open block takes belongs to the item and to the block alone. There is one
    case for each stage with a block. -/
theorem takes?_open (line : Line) (opened : stage.block? = some block)
    (takes : block.takes line = true) :
    stage.takes? line = some (stage.withBlock (block.add line)) := by
  cases stage with
  | between | session | command | params | body => cases opened
  | commandBlock | answer | detached =>
    cases opened
    simp [takes?, withBlock, takes]

/-- A line that a block refuses ends the item if it ended the item with another
    block. -/
theorem takes?_withBlock (other : Block) (line : Line)
    (opened : stage.block? = some block) (refused : stage.takes? line = none)
    (refuses : other.takes line = false) : (stage.withBlock other).takes? line = none := by
  have notConsumed := stage.consumes_of_refused line refused
  simp only [consumes, opened, Option.any_some] at notConsumed
  cases stage with
  | between | session | command | params | body => cases opened
  | commandBlock | answer | detached =>
    cases opened
    simp_all [takes?, withBlock]

/-- The open block takes all lines that it goes on through. The induction is on the lines. -/
theorem foldlM_takes? (more : List Line) (opened : stage.block? = some block)
    (goesOn : block.GoesOn more) :
    more.foldlM takes? stage = some (stage.withBlock (block.append more)) := by
  induction more generalizing stage block with
  | nil => rw [Block.append_nil, stage.withBlock_self block opened]; rfl
  | cons line more inductionHypothesis =>
    rw [List.foldlM_cons, stage.takes?_open block line opened goesOn.head]
    have further := inductionHypothesis (stage.withBlock (block.add line)) (block.add line)
      (stage.block?_withBlock _ block opened) goesOn.tail
    rw [withBlock_withBlock, Block.add_eq_append, Block.append_append,
      List.singleton_append] at further
    rwa [Block.add_eq_append]

end Stage

namespace Assembly

variable (assembly : Assembly) (block : Block)

/-- What is told of the open item does not depend on its block. -/
theorem told_withBlock :
    ({ assembly with stage := assembly.stage.withBlock block } : Assembly).told =
      assembly.told := by
  obtain ⟨events, thinking, pending, stage⟩ := assembly
  cases stage <;> rfl

/-- If a block is captured, so is any other in its place. Whether it is depends on the tool
    and on who waits. -/
theorem captured?_withBlock :
    ({ assembly with stage := assembly.stage.withBlock block } : Assembly).captured? =
      assembly.captured?.map fun _ => block := by
  obtain ⟨events, thinking, pending, stage⟩ := assembly
  cases stage with
  | between | session | command | commandBlock | params | body => rfl
  | answer | detached =>
    simp only [captured?, Stage.withBlock]
    split <;> rfl

end Assembly

/-- Every block ends at the first place behind its opening where it has to stop, and
    its text is that of the lines up to there. Whatever item it stands below, the
    reading passes these lines into it and no line more. -/
theorem blocks_end_at_their_first_stop (lines : List Line) (start : Nat)
    (inside : start < lines.length) :
    ∃ stop block, Block.Spans lines start stop block ∧
      ∀ stage : Stage, stage.block? = some (Block.start lines[start]) →
        (Block.stretch lines (start + 1) stop).foldlM Stage.takes? stage =
            some (stage.withBlock block) ∧
          ∀ line, lines[stop]? = some line → (stage.withBlock block).consumes line = false := by
  obtain ⟨stop, goesOn, spans⟩ := Block.exists_spans lines start inside
  refine ⟨stop, _, spans, ?_⟩
  intro stage opened
  refine ⟨stage.foldlM_takes? _ _ opened goesOn, ?_⟩
  intro line here
  simp [Stage.consumes, stage.block?_withBlock _ _ opened, spans.refuses line here]

namespace OpenBlock

/-- A block below a command, with a brace in its literal and an open one behind it.
    A tool header stops it. -/
def cut : List Line :=
  ["$ ls", "Annotated \x7b", "  text: \"\x7d\" \x7b", "─── shell | developer ───", "\x7d"]

end OpenBlock

open OpenBlock in
/-- The block below the command is stopped by the header, though its braces are
    open. -/
theorem header_stops_block :
    ∃ block, Block.at? cut 1 = some block ∧ 0 < block.depth ∧
      block.lines = ["Annotated \x7b", "  text: \"\x7d\" \x7b"] ∧
      ["  text: \"\x7d\" \x7b"].foldlM Stage.takes?
          (.commandBlock "ls" [] (Block.start "Annotated \x7b")) =
        some (.commandBlock "ls" [] block) := by
  obtain ⟨stop, block, spans, passed⟩ := blocks_end_at_their_first_stop cut 1 (by decide)
  obtain rfl : stop = 3 := spans.stop_eq 3 (by decide) (by decide +kernel) (by decide +kernel)
  refine ⟨block, spans.found, ?_, spans.lines_eq, ?_⟩
  · rw [spans.depth_eq]
    decide +kernel
  · exact (passed (.commandBlock "ls" [] (Block.start "Annotated \x7b")) rfl).1

end AgentRuns
