import AgentRuns.Block.Braces
import Mathlib.Data.List.Basic

/-!
# Quotes from left to right

Whether a quote is escaped is told by the run of backslashes before it, which is
counted backwards anew at every quote. Only the parity of the run matters, and a
character changes it in one way, so all that a place owes to the characters
before it is two bits: whether a quote is open there, and whether an odd run of
backslashes ends there. A reading of a line carries these two bits along and
never looks back, so that readings can be cut into parts.

The content of a quoted text closes no quote of its own as long as every quote
and every backslash in it is escaped. Then it weighs nothing, whatever braces it
holds.
-/

namespace AgentRuns.Block

/-- A backslash escapes unless it is escaped itself. So the parity of a run of backslashes is
    carried from one character to the next. -/
theorem isEscaped_cons (c : CodePoint) (before : Text) :
    isEscaped (c :: before) = (c == '\\' && !isEscaped before) := by
  unfold isEscaped
  rw [List.takeWhile_cons]
  cases backslash : c == CodePoint.char '\\' with
  | false => rfl
  | true =>
    rw [if_pos rfl, List.length_cons, Bool.true_and]
    rcases Nat.mod_two_eq_zero_or_one (before.takeWhile (· == .char '\\')).length with even | odd
    · simp [even, Nat.add_mod]
    · simp [odd, Nat.add_mod]

/-- What a place of a line owes to the characters before it. -/
structure Place where
  quoted : Bool
  escaped : Bool
  deriving DecidableEq

namespace Place

/-- Outside quotes, where no mark is escaped: the start of a line. -/
def outside : Place := ⟨false, false⟩

/-- Inside quotes, where no mark is escaped. -/
def inside : Place := ⟨true, false⟩

/-- The place behind a character. -/
def step (place : Place) (c : CodePoint) : Place where
  quoted := place.quoted != (c == '"' && !place.escaped)
  escaped := c == '\\' && !place.escaped

/-- The place behind a text. -/
def behind (place : Place) (text : Text) : Place := text.foldl step place

/-- Opening less closing braces outside quotes in a text that stands at the
    place. -/
def delta (place : Place) : Text → Int
  | [] => 0
  | c :: rest => (if place.quoted then 0 else braceWeight c) + (place.step c).delta rest

/-- The place behind two parts is the one behind the second, read from the place behind the
    first. -/
theorem behind_append (place : Place) (first rest : Text) :
    place.behind (first ++ rest) = (place.behind first).behind rest :=
  List.foldl_append

/-- Two parts add their depths. The second is read from the place that the first one leads to. -/
theorem delta_append (place : Place) (first rest : Text) :
    place.delta (first ++ rest) = place.delta first + (place.behind first).delta rest := by
  induction first generalizing place with
  | nil => exact (Int.zero_add _).symm
  | cons c first inductionHypothesis =>
    rw [List.cons_append, delta, delta, inductionHypothesis, Int.add_assoc]
    rfl

end Place

/-- Looking back counts as a reading from left to right does. Two bits stand for all
    characters before, whatever these are. -/
theorem braceDeltaFrom_eq_delta (before : Text) (quoted : Bool) (text : Text) :
    braceDeltaFrom before quoted text = Place.delta ⟨quoted, isEscaped before⟩ text := by
  induction text generalizing before quoted with
  | nil => rfl
  | cons c rest inductionHypothesis =>
    rw [braceDeltaFrom, Place.delta, Place.step, ← isEscaped_cons]
    cases quote : c == CodePoint.char '"' && !isEscaped before with
    | true =>
      have weightless : braceWeight c = 0 := by
        rw [Bool.and_eq_true, beq_iff_eq] at quote
        rw [quote.1]
        rfl
      simp [inductionHypothesis, weightless]
    | false => simp [inductionHypothesis]

/-- The depth that a line adds, read from left to right. A line begins outside quotes. -/
theorem braceDelta_eq_delta (line : Line) : braceDelta line = Place.outside.delta line :=
  braceDeltaFrom_eq_delta [] false line

/-- A text that may stand inside quotes: they are still open behind it, and it
    weighs nothing there. -/
structure Enclosed (content : Text) : Prop where
  staysInside : Place.inside.behind content = Place.inside
  weightless : Place.inside.delta content = 0

namespace Enclosed

/-- Nothing may stand inside quotes. -/
theorem nil : Enclosed [] := ⟨rfl, rfl⟩

/-- A character that is neither a quote nor a backslash leaves the quote open and escapes
    nothing. -/
theorem plain (c : CodePoint) (notQuote : c ≠ .char '"') (notBackslash : c ≠ .char '\\') :
    Enclosed [c] where
  staysInside := by
    simp [Place.behind, Place.step, Place.inside, notQuote, notBackslash]
  weightless := rfl

/-- Any character behind a backslash, since it is escaped and closes nothing. -/
theorem escaped (c : CodePoint) : Enclosed ['\\', c] where
  staysInside := by
    have different : (CodePoint.char '\\' == .char '"') = false := rfl
    simp [Place.behind, Place.step, Place.inside, different]
  weightless := by
    have different : (CodePoint.char '\\' == .char '"') = false := rfl
    simp [Place.delta, Place.step, Place.inside, different]

/-- Two texts that may stand inside quotes may stand there one behind the other. -/
theorem append (first rest : Text) (enclosed : Enclosed first) (others : Enclosed rest) :
    Enclosed (first ++ rest) where
  staysInside := by rw [Place.behind_append, enclosed.staysInside, others.staysInside]
  weightless := by
    rw [Place.delta_append, enclosed.weightless, enclosed.staysInside, others.weightless,
      Int.add_zero]

/-- A text may stand inside quotes if every character is written so that it may. Nothing is
    asked of how the characters follow each other. -/
theorem flatMap (write : CodePoint → Text) (each : ∀ c, Enclosed (write c)) (content : Text) :
    Enclosed (content.flatMap write) := by
  induction content with
  | nil => exact Enclosed.nil
  | cons c rest inductionHypothesis =>
    rw [List.flatMap_cons]
    exact Enclosed.append _ _ (each c) inductionHypothesis

end Enclosed

/-- A quoted text weighs nothing in a line, whatever its content. The quote that closes it
    leads back to where the first one was met. -/
theorem braceDelta_quoted (first content rest : Text)
    (opens : Place.outside.behind first = Place.outside) (enclosed : Enclosed content) :
    braceDelta (first ++ ("\"" ++ (content ++ ("\"" ++ rest)))) =
      braceDelta first + braceDelta rest := by
  have opened (quoted : Text) : Place.outside.delta ("\"" ++ quoted) =
      Place.inside.delta quoted := Int.zero_add _
  have closed : Place.inside.delta ("\"" ++ rest) = Place.outside.delta rest := Int.zero_add _
  rw [braceDelta_eq_delta, Place.delta_append, opens, opened, Place.delta_append,
    enclosed.weightless, enclosed.staysInside, closed, Int.zero_add, ← braceDelta_eq_delta,
    ← braceDelta_eq_delta]

end AgentRuns.Block
