import AgentRuns.Text.Basic

/-!
# Sets of characters by ranges

A property of characters is held as the ascending list of the code point ranges
that have it, both ends included. Membership walks the list and stops at the
first range that begins past the code point.
-/

namespace AgentRuns.Text

/-- Ascending, disjoint ranges of code points, both ends included. -/
abbrev Ranges := List (Nat × Nat)

/-- Whether one of the ranges holds the code point. -/
def Ranges.holds : Ranges → Nat → Bool
  | [], _ => false
  | (first, last) :: rest, code =>
    if code < first then false
    else if code ≤ last then true
    else holds rest code

end AgentRuns.Text
