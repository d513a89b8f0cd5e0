import AgentRuns.Proofs.Block.Literals

/-!
# Braces in one reading

The depth that a line adds is defined by looking back: at every quote the run of
backslashes before it is counted anew. One reading from left to right comes to the same
depth. It carries the place it has come to, two bits, and adds up what the characters
weigh there. The bits say of every place what looking back would find: the parity of the
run of backslashes that ends there, and the parity of the quotes that are not escaped.
-/

namespace AgentRuns.Block

/-- A reading of a line from left to right: the place it has come to and the depth there. -/
structure Reading where
  place : Place
  depth : Int

namespace Reading

/-- A reading goes on by one character. What the character weighs is told by the place
    before it. -/
def step (reading : Reading) (c : CodePoint) : Reading where
  place := reading.place.step c
  depth := reading.depth + if reading.place.quoted then 0 else braceWeight c

/-- The reading of a text from outside quotes. -/
def of (text : Text) : Reading := text.foldl step ⟨.outside, 0⟩

/-- A reading of one more character is the reading of the others and a step. -/
theorem of_concat (text : Text) (c : CodePoint) : of (text ++ [c]) = (of text).step c := by
  rw [of, List.foldl_append]
  rfl

/-- A reading has come to the place behind the text, and to the depth that the text adds. This
    is told for every text at once, by induction from its end. -/
theorem of_eq (text : Text) :
    of text = ⟨Place.outside.behind text, Place.outside.delta text⟩ := by
  induction text using List.reverseRecOn with
  | nil => rfl
  | append_singleton text c inductionHypothesis =>
    rw [of_concat, inductionHypothesis, Place.behind_append, Place.delta_append]
    simp [step, Place.behind, Place.delta]

end Reading

/-- How often a mark stands outside quotes. -/
def unquoted (mark : CodePoint) (text : Text) : Nat :=
  shown mark (fun before => (Reading.of before).place.quoted) text

/-- The depth of a reading is that of the braces it has found outside quotes, those that open
    less those that close. -/
theorem depth_of (text : Text) :
    (Reading.of text).depth = (unquoted (.char '{') text : Int) - unquoted (.char '}') text := by
  induction text using List.reverseRecOn with
  | nil => rfl
  | append_singleton text c inductionHypothesis =>
    rw [unquoted, unquoted, shown_concat, shown_concat, ← unquoted, ← unquoted, Reading.of_concat,
      Reading.step]
    dsimp only
    rw [inductionHypothesis]
    cases (Reading.of text).place.quoted with
    | true => simp
    | false =>
      by_cases opens : c = .char '{'
      · subst opens
        have other : (CodePoint.char '{' == .char '}') = false := by decide
        simp [braceWeight, other]
        omega
      · by_cases closes : c = .char '}'
        · subst closes
          have other : (CodePoint.char '}' == .char '{') = false := by decide
          simp [braceWeight, other]
          omega
        · simp [braceWeight, opens, closes]

/-- Looking back from every quote counts the braces of a line outside quotes. One reading
    from left to right counts them too, that keeps two bits and never looks back: they
    tell at every place whether an odd run of backslashes ends there, and whether a quote
    is open. A character opens or closes quotes exactly if it is a quote behind no odd run. -/
theorem one_reading_counts_braces :
    (∀ line : Line, braceDelta line = (Reading.of line).depth ∧
      braceDelta line = (unquoted (.char '{') line : Int) - unquoted (.char '}') line) ∧
    ∀ (before : Text) (c : CodePoint),
      (Reading.of before).place.escaped = isEscaped before.reverse ∧
      (Reading.of before).place.quoted = (bareQuotes before % 2 == 1) ∧
      ((Reading.of (before ++ [c])).place.quoted ≠ (Reading.of before).place.quoted ↔
        c = .char '"' ∧ isEscaped before.reverse = false) := by
  constructor
  · intro line
    have whole : braceDelta line = (Reading.of line).depth := by
      rw [Reading.of_eq, braceDelta_eq_delta]
    exact ⟨whole, by rw [whole, depth_of]⟩
  · intro before c
    rw [Reading.of_concat, Reading.of_eq, behind_outside]
    refine ⟨rfl, rfl, ?_⟩
    simp only [Reading.step, Place.step]
    cases quote : c == CodePoint.char '"' <;> cases isEscaped before.reverse <;> simp_all

/-- Backslashes escape outside quotes as well: of three in a row the last one takes the
    quote away, and the brace behind it counts. -/
example : (Reading.of "\\\"\x7b").depth = 1 := by decide

end AgentRuns.Block
