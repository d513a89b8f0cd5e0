import AgentRuns.Proofs.Text.Lines
import AgentRuns.Proofs.Transcript.Noise

/-!
# Inner fields of a block

An inner field of a result block is told by its name and by how its value
begins, with any blanks before the name and between the two. So what is written
behind them does not matter, and neither do blanks at the ends of the line: a
line that is stripped is an inner field exactly if it was one before.
-/

namespace AgentRuns.Line

/-- The names of inner fields, each with what its value begins with. -/
def innerFields : List (Text × Text) :=
  [("raw:", "Text("), ("RawTextContent", "\x7b"), ("annotations:", "Some"),
    ("annotations:", "None"), ("Annotations", "\x7b"), ("audience:", "Some("),
    ("priority:", "Some("), ("meta:", "None")]

/-- Names and values hold no blanks. There are few fields to look at. -/
theorem tight_innerFields (name value : Text) (isField : (name, value) ∈ innerFields) :
    Text.Tight name ∧ Text.Tight value := by
  have visible : ∀ field ∈ innerFields,
      (field.1 ≠ [] ∧ ∀ c ∈ field.1, Text.isBlank c = false) ∧
        (field.2 ≠ [] ∧ ∀ c ∈ field.2, Text.isBlank c = false) := by decide
  obtain ⟨inName, inValue⟩ := visible (name, value) isField
  exact ⟨Text.tight_of_visible name inName.1 inName.2,
    Text.tight_of_visible value inValue.1 inValue.2⟩

/-- A line is an inner field if it begins with one of the names and, behind
    blanks, with its value. -/
theorem leaksBlock_eq (line : Line) : line.leaksBlock = innerFields.any fun field =>
    (Text.after? (Text.stripStart line) field.1).any fun rest =>
      (Text.stripStart rest).startsWith field.2 := by
  simp only [innerFields, List.any_cons, List.any_nil, Bool.or_false, ← Bool.or_assoc, leaksBlock]
  -- The two sides agree field by field, whether its name is there or not.
  congr
  all_goals split <;> simp [*]

/-- The form of an inner field. Blanks may stand before its name and between the name and the
    value. -/
theorem leaksBlock_iff (line : Line) : line.leaksBlock = true ↔
    ∃ name value indent gap rest, (name, value) ∈ innerFields ∧
      line = indent ++ (name ++ (gap ++ (value ++ rest))) ∧
      Text.allBlank indent = true ∧ Text.allBlank gap = true := by
  have blankBefore (text : Text) : Text.allBlank (text.takeWhile Text.isBlank) = true :=
    List.all_eq_true.mpr fun c => List.mem_takeWhile_imp
  have split (text : Text) : text.takeWhile Text.isBlank ++ Text.stripStart text = text :=
    List.takeWhile_append_dropWhile
  simp only [leaksBlock_eq, List.any_eq_true, Option.any_eq_true, Text.after?_eq_some,
    Text.startsWith_iff, Prod.exists]
  constructor
  · rintro ⟨name, value, isField, behind, named, rest, begun⟩
    refine ⟨name, value, line.takeWhile Text.isBlank, behind.takeWhile Text.isBlank, rest,
      isField, ?_, blankBefore line, blankBefore behind⟩
    rw [← begun, split behind, ← named, split line]
  · rintro ⟨name, value, indent, gap, rest, isField, rfl, indentBlank, gapBlank⟩
    obtain ⟨tightName, tightValue⟩ := tight_innerFields name value isField
    refine ⟨name, value, isField, gap ++ (value ++ rest), ?_, rest, ?_⟩
    · rw [Text.stripStart_around indent name _ tightName,
        (Text.stripStart_eq_nil indent).mpr indentBlank, List.nil_append]
    · rw [Text.stripStart_around gap value rest tightValue,
        (Text.stripStart_eq_nil gap).mpr gapBlank, List.nil_append]

/-- Blanks at the start make no inner field of a line and hide none. -/
@[simp] theorem leaksBlock_stripStart (line : Line) :
    leaksBlock (Text.stripStart line) = line.leaksBlock := by
  rw [leaksBlock_eq, leaksBlock_eq, Text.stripStart_stripStart]

/-- Blanks at the end make no inner field of a line and hide none. The values end with visible
    characters. -/
@[simp] theorem leaksBlock_stripEnd (line : Line) :
    leaksBlock (Text.stripEnd line) = line.leaksBlock := by
  rw [Bool.eq_iff_iff, leaksBlock_iff, leaksBlock_iff]
  constructor
  · rintro ⟨name, value, indent, gap, rest, isField, form, blank⟩
    obtain ⟨blanks, whole⟩ := Text.stripEnd_initial line
    refine ⟨name, value, indent, gap, rest ++ blanks, isField, ?_, blank⟩
    rw [← whole, form]
    simp only [List.append_assoc]
  · rintro ⟨name, value, indent, gap, rest, isField, rfl, blank⟩
    refine ⟨name, value, indent, gap, Text.stripEnd rest, isField, ?_, blank⟩
    have ended := Text.stripEnd_around (indent ++ (name ++ gap)) value rest
      (tight_innerFields name value isField).2
    simpa only [List.append_assoc] using ended

/-- Stripping makes no inner field of a line and hides none. So lines can be tested before or
    after it. -/
@[simp] theorem leaksBlock_strip (line : Line) :
    leaksBlock (Text.strip line) = line.leaksBlock := by
  rw [Text.strip, leaksBlock_stripEnd, leaksBlock_stripStart]

end AgentRuns.Line
