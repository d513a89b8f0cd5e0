import AgentRuns.Text.Blank
import AgentRuns.Text.Word
import Mathlib.Data.List.Basic
import Mathlib.Data.List.TakeDrop
import Mathlib.Data.List.TakeWhile

/-!
# Classes of characters

A class is a list of ranges, so two classes are disjoint if no range of one
touches a range of the other. That is a comparison of their ends and is decided
for the tables as they are: no word character is blank. The characters that keys
of parameters are made of are word characters.

A part whose characters are all of a class is read up to its end if what follows
does not begin with another one.
-/

namespace AgentRuns

/-- What follows an opening is the rest of the text behind it. So a text that has an opening
    is told as the opening and the rest. -/
theorem Text.after?_eq_some (text opening rest : Text) :
    text.after? opening = some rest ↔ text = opening ++ rest := by
  rw [Text.after?, List.isPrefixOf?_eq_some_iff_append_eq, eq_comm]

/-- Nothing follows an opening that begins otherwise. The first character is enough to tell. -/
theorem Text.after?_of_head (c first : CodePoint) (rest opening : Text) (differs : first ≠ c) :
    Text.after? (c :: rest) (first :: opening) = none := by
  simp [Text.after?, List.isPrefixOf?, differs]

/-- A character that is not the null character has one number only. The null character stands
    for every number that is no character's, so it is left out. -/
theorem CodePoint.number_of_ofNat (code : Nat) (c : Char) (same : Char.ofNat code = c)
    (notNull : c ≠ '\x00') : code = c.toNat := by
  subst same
  by_cases valid : code.isValidChar
  · rw [Char.ofNat, dif_pos valid]
    rfl
  · rw [Char.ofNat, dif_neg valid] at notNull
    exact absurd rfl notNull

namespace Line

/-- No character of the class stands at the start of the text. -/
def Outside (kind : CodePoint → Bool) (text : Text) : Prop :=
  ∀ c, text.head? = some c → kind c = false

/-- The characters of a class before a text outside it are exactly its span. A text outside a
    class is empty or begins with another character. -/
theorem span_inside (kind : CodePoint → Bool) (part rest : Text)
    (inside : ∀ c ∈ part, kind c = true) (outside : Outside kind rest) :
    (part ++ rest).span kind = (part, rest) := by
  have stop : rest.span kind = ([], rest) := by
    cases rest with
    | nil => rfl
    | cons c rest => simp [List.span_eq_takeWhile_dropWhile, outside c rfl]
  rw [List.span_eq_takeWhile_dropWhile] at stop ⊢
  rw [List.takeWhile_append_of_pos inside, List.dropWhile_append_of_pos inside,
    (Prod.mk.inj stop).1, (Prod.mk.inj stop).2, List.append_nil]

end Line

namespace Text

/-- A code point of a class lies in one of its ranges, wherever the search among them stops. -/
theorem Ranges.mem_of_holds (ranges : Ranges) (code : Nat) (held : ranges.holds code = true) :
    ∃ range ∈ ranges, range.1 ≤ code ∧ code ≤ range.2 := by
  induction ranges with
  | nil => cases held
  | cons range rest inductionHypothesis =>
    obtain ⟨first, last⟩ := range
    unfold Ranges.holds at held
    split at held
    · cases held
    · rename_i notBelow
      split at held
      · rename_i notAbove
        exact ⟨(first, last), List.mem_cons_self, Nat.le_of_not_lt notBelow, notAbove⟩
      · obtain ⟨range, member, bounds⟩ := inductionHypothesis held
        exact ⟨range, List.mem_cons_of_mem _ member, bounds⟩

/-- Whether no range of one class touches a range of the other. -/
def Ranges.apart (left right : Ranges) : Bool :=
  left.all fun one => right.all fun other => one.2 < other.1 || other.2 < one.1

/-- Classes without touching ranges share no code point. Whether they touch is computed from
    the two tables, once for all code points. -/
theorem Ranges.not_holds_of_apart (left right : Ranges) (separate : left.apart right = true)
    (code : Nat) (held : left.holds code = true) : right.holds code = false := by
  rw [Bool.eq_false_iff]
  intro alsoHeld
  obtain ⟨one, oneMember, oneBelow, oneAbove⟩ := left.mem_of_holds code held
  obtain ⟨other, otherMember, otherBelow, otherAbove⟩ := right.mem_of_holds code alsoHeld
  have ends := List.all_eq_true.mp (List.all_eq_true.mp separate one oneMember) other otherMember
  simp only [Bool.or_eq_true, decide_eq_true_eq] at ends
  omega

/-- No word character is blank. The two tables have been compared range by range. -/
theorem isBlank_of_isWord (c : CodePoint) (word : isWord c = true) : isBlank c = false :=
  Ranges.not_holds_of_apart wordRanges blankRanges (by decide +kernel) c.toNat word

/-- No blank is a word character. This is the same comparison, told from the other side. -/
theorem isWord_of_isBlank (c : CodePoint) (blank : isBlank c = true) : isWord c = false := by
  cases word : isWord c with
  | false => rfl
  | true => exact absurd blank (by simp [isBlank_of_isWord c word])

/-- Letters of the plain lower case and the low line are word characters. They are what keys
    of parameters begin with. -/
theorem isWord_of_key (c : CodePoint) (key : (c.within 'a' 'z' || c == '_') = true) :
    isWord c = true := by
  rcases Bool.or_eq_true_iff.mp key with letter | line
  · have bounds : 97 ≤ c.toNat ∧ c.toNat ≤ 122 := by
      simpa [CodePoint.within] using letter
    have all : ∀ code < 123, 97 ≤ code → wordRanges.holds code = true := by decide
    exact all c.toNat (by omega) bounds.1
  · rw [eq_of_beq line]
    decide

end Text

end AgentRuns
