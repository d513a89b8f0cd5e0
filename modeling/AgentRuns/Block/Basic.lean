import AgentRuns.Block.Braces
import AgentRuns.Transcript.Line

/-!
# Result blocks

A block grows line by line from its opening line. It takes a further line as
long as its braces are open and the line is no tool header: a block that lost
its end must not swallow the calls that follow. Whatever a block does not take
stands behind it.
-/

namespace AgentRuns

/-- The lines of a block so far, its opening line first, and the depth of the
    braces they leave open. -/
structure Block where
  lines : List Line
  depth : Int

namespace Block

/-- The block of an opening line alone. -/
def start (opening : Line) : Block := ⟨[opening], braceDelta opening⟩

/-- Whether the line still belongs to the block. -/
def takes (block : Block) (line : Line) : Bool := 0 < block.depth && !line.isToolHeader

/-- The block with a further line. -/
def add (block : Block) (line : Line) : Block :=
  ⟨block.lines ++ [line], block.depth + braceDelta line⟩

/-- The block with all lines that it takes from those that follow. -/
def extend (block : Block) : List Line → Block
  | [] => block
  | line :: rest => if block.takes line then (block.add line).extend rest else block

/-- The block that the line at a position opens, if there is such a line. -/
def at? (lines : List Line) (position : Nat) : Option Block :=
  match lines.drop position with
  | [] => none
  | opening :: rest => some ((start opening).extend rest)

/-- The text of the block. -/
def text (block : Block) : Text := Text.unlines block.lines

end Block

end AgentRuns
