import AgentRuns.Proofs.Block.Extent
import AgentRuns.Proofs.Block.Quotes
import Mathlib.Data.List.Induction

/-!
# Literals

A literal is a text between quotes with a backslash before each of its own quotes
and backslashes. Wherever no quote is open, and no backslash is left over that
would escape the first quote, a literal may stand in a line: the line then weighs
what its other parts weigh on their own. Nothing that a literal says moves the
end of a block.

That no quote is open is told by counting. A quote counts unless an odd run of
backslashes stands before it, and an even count leaves none open. The reading
from left to right carries the parity of this count, and the parity of the run
that ends at its place.
-/

namespace AgentRuns.Block

/-- How often a mark stands in a text where what stands before does not hide it. -/
def shown (mark : CodePoint) (hidden : Text → Bool) (text : Text) : Nat :=
  (List.range text.length).countP fun place =>
    text[place]? == some mark && !hidden (text.take place)

/-- A further character is shown once more or not; the others are shown as they were. What
    hides a mark stands before it, so nothing behind it can change that. -/
theorem shown_concat (mark : CodePoint) (hidden : Text → Bool) (text : Text) (c : CodePoint) :
    shown mark hidden (text ++ [c]) =
      shown mark hidden text + if c == mark && !hidden text then 1 else 0 := by
  have earlier : ∀ place ∈ List.range text.length,
      ((text ++ [c])[place]? == some mark && !hidden ((text ++ [c]).take place)) =
        (text[place]? == some mark && !hidden (text.take place)) := by
    intro place member
    have inside : place < text.length := List.mem_range.mp member
    rw [List.getElem?_append_left inside,
      List.take_append_of_le_length (Nat.le_of_lt inside)]
  have last : ((text ++ [c])[text.length]? == some mark) = (c == mark) := by
    rw [List.getElem?_concat_length]
    exact Option.some_beq_some
  unfold shown
  rw [List.length_append, List.length_singleton, List.range_succ, List.countP_append,
    List.countP_congr fun place member => iff_of_eq (congrArg (· = true) (earlier place member)),
    List.countP_singleton, last, List.take_left]

/-- How many quotes of a text are not escaped by what stands before them. -/
def bareQuotes (text : Text) : Nat := shown (.char '"') (isEscaped ·.reverse) text

/-- A further character is a bare quote or it is none; the others are what they
    were. -/
theorem bareQuotes_concat (text : Text) (c : CodePoint) :
    bareQuotes (text ++ [c]) =
      bareQuotes text + if c == .char '"' && !isEscaped text.reverse then 1 else 0 :=
  shown_concat (.char '"') (isEscaped ·.reverse) text c

/-- Behind a text a quote is open if the bare quotes before are odd in number, and
    the next one is escaped if an odd run of backslashes ends there. -/
theorem behind_outside (text : Text) :
    Place.outside.behind text = ⟨bareQuotes text % 2 == 1, isEscaped text.reverse⟩ := by
  induction text using List.reverseRecOn with
  | nil => rfl
  | append_singleton text c inductionHypothesis =>
    rw [Place.behind_append, inductionHypothesis, bareQuotes_concat, List.reverse_append]
    have escaped : isEscaped ([c].reverse ++ text.reverse) =
        (c == .char '\\' && !isEscaped text.reverse) := isEscaped_cons c text.reverse
    rw [escaped]
    change Place.step _ c = _
    rw [Place.step, Place.mk.injEq]
    refine ⟨?_, rfl⟩
    cases quote : c == CodePoint.char '"' && !isEscaped text.reverse with
    | false => simp
    | true =>
      rcases Nat.mod_two_eq_zero_or_one (bareQuotes text) with even | odd
      · simp [even, Nat.add_mod]
      · simp [odd, Nat.add_mod]

/-- A character inside a literal: a quote and a backslash stand behind a backslash. -/
def guarded (c : CodePoint) : Text :=
  if c == .char '"' || c == .char '\\' then [.char '\\', c] else [c]

/-- A text as a literal. -/
def literal (content : Text) : Text := "\"" ++ (content.flatMap guarded ++ "\"")

/-- What a literal holds may stand inside quotes. Its quotes and backslashes are guarded one
    by one. -/
theorem enclosed_guarded (content : Text) : Enclosed (content.flatMap guarded) := by
  apply Enclosed.flatMap
  intro c
  unfold guarded
  split
  · exact Enclosed.escaped c
  · rename_i plain
    simp only [Bool.or_eq_true, beq_iff_eq, not_or] at plain
    exact Enclosed.plain c plain.1 plain.2

/-- A literal weighs nothing in a line, whatever it says, and so it changes the depth
    of no block. Before it no quote is open, and no odd run of backslashes ends. -/
theorem literals_weigh_nothing (before content behind : Text)
    (closed : bareQuotes before % 2 = 0) (unescaped : isEscaped before.reverse = false) :
    braceDelta (before ++ (literal content ++ behind)) = braceDelta before + braceDelta behind ∧
      ∀ (above below : List Line) (other : Text),
        (of (above ++ (before ++ (literal content ++ behind)) :: below)).depth =
          (of (above ++ (before ++ (literal other ++ behind)) :: below)).depth := by
  have outside : Place.outside.behind before = Place.outside := by
    rw [behind_outside, closed, unescaped]
    rfl
  have weighs (said : Text) : braceDelta (before ++ (literal said ++ behind)) =
      braceDelta before + braceDelta behind := by
    have quoted := braceDelta_quoted before _ behind outside (enclosed_guarded said)
    rwa [literal, List.append_assoc, List.append_assoc]
  refine ⟨weighs content, ?_⟩
  intro above below other
  simp only [of, List.map_append, List.map_cons, weighs]

/-- A literal that ends in a backslash, with braces and quotes on both sides. Neither the
    guarded quote in it nor its last backslash opens or closes anything. -/
theorem backslash_literal_weighs_nothing :
    bareQuotes "text: \"\\\"\x7b\", \\\\" % 2 = 0 ∧
      isEscaped (Text.ofString "text: \"\\\"\x7b\", \\\\").reverse = false ∧
      literal "\x7d\"\\" = "\"\x7d\\\"\\\\\"" ∧
      braceDelta ("text: \"\\\"\x7b\", \\\\" ++ (literal "\x7d\"\\" ++ "\x7b \x7b")) =
        braceDelta "text: \"\\\"\x7b\", \\\\" + braceDelta "\x7b \x7b" := by
  have closed : bareQuotes "text: \"\\\"\x7b\", \\\\" % 2 = 0 := by decide +kernel
  have unescaped : isEscaped (Text.ofString "text: \"\\\"\x7b\", \\\\").reverse = false := by
    decide +kernel
  refine ⟨closed, unescaped, by decide, ?_⟩
  exact (literals_weigh_nothing _ "\x7d\"\\" "\x7b \x7b" closed unescaped).1

end AgentRuns.Block
