import AgentRuns.Json.Basic

/-!
# Validation

A value from outside is checked field by field before it becomes a value of the
library. Checks are independent: every field is checked, and all issues are
reported together, each with the path of keys and positions that leads to it and
with what is wrong there. Unknown fields are ignored.

Reports list issues by the text of their paths and then by kind.
-/

namespace AgentRuns

/-- What is wrong with a value. -/
inductive IssueKind
  | missing
  | notAnObject
  | notATable
  | notAList
  | notAText
  | notAChoice
  | notAnInteger
  | notAnIntegerText
  | integerTooLong
  | fractional
  | notFinite
  | notANumber
  | notANumberText
  deriving DecidableEq

/-- The name of a kind in reports. -/
def IssueKind.name : IssueKind → Text
  | .missing => "missing"
  | .notAnObject => "model_type"
  | .notATable => "dict_type"
  | .notAList => "list_type"
  | .notAText => "string_type"
  | .notAChoice => "literal_error"
  | .notAnInteger => "int_type"
  | .notAnIntegerText => "int_parsing"
  | .integerTooLong => "int_parsing_size"
  | .fractional => "int_from_float"
  | .notFinite => "finite_number"
  | .notANumber => "float_type"
  | .notANumberText => "float_parsing"

/-- An issue and the path that leads to it. -/
structure Issue where
  path : List Text
  kind : IssueKind
  deriving DecidableEq

/-- The issues as pairs of path and kind, in the order of reports. -/
def Issue.report (issues : List Issue) : List (Text × Text) :=
  (issues.map fun issue => (Text.join "." issue.path, issue.kind.name)).mergeSort
    fun left right =>
      if left.1 == right.1 then Text.le left.2 right.2 else Text.le left.1 right.1

/-- The outcome of a check: a value, or everything that is wrong. -/
inductive Checked (α : Type)
  | valid (value : α)
  | invalid (issues : List Issue)

namespace Checked

/-- Two independent checks: the issues of both count. -/
def apply {α β : Type} : Checked (α → β) → Checked α → Checked β
  | .valid f, .valid value => .valid (f value)
  | .valid _, .invalid issues => .invalid issues
  | .invalid issues, .valid _ => .invalid issues
  | .invalid issues, .invalid others => .invalid (issues ++ others)

/-- The checks of parts are made independently, so that the issues of all of them are told. -/
instance : Applicative Checked where
  pure := .valid
  seq f value := f.apply (value ())

/-- A check that fails by one issue right here. -/
def fail {α : Type} (kind : IssueKind) : Checked α := .invalid [⟨[], kind⟩]

/-- The check of what stands under a key or at a position. -/
def under {α : Type} (step : Text) : Checked α → Checked α
  | .valid value => .valid value
  | .invalid issues =>
    .invalid (issues.map fun issue => { issue with path := step :: issue.path })

/-- The value, if nothing is wrong. -/
def value? {α : Type} : Checked α → Option α
  | .valid value => some value
  | .invalid _ => none

/-- The value, or the issues as an error. -/
def orIssues {α : Type} : Checked α → Except (List Issue) α
  | .valid value => .ok value
  | .invalid issues => .error issues

end Checked

end AgentRuns
