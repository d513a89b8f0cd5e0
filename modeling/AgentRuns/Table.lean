import AgentRuns.Text.Basic

/-!
# Tables

A table maps texts to values and keeps its keys in the order of their first
arrival. Writing a key that is already there replaces its value in place, so a
later write wins without moving the key.
-/

namespace AgentRuns

/-- Keys with their values, in the order of first arrival. -/
abbrev Table (α : Type) := List (Text × α)

namespace Table

/-- The value of a key: that of its first entry. -/
def get? {α : Type} (table : Table α) (key : Text) : Option α := table.lookup key

/-- The table with `value` under `key`, in place or at the end. -/
def put {α : Type} (key : Text) (value : α) : Table α → Table α
  | [] => [(key, value)]
  | (other, old) :: rest =>
    if other = key then (key, value) :: rest else (other, old) :: put key value rest

/-- A written key has the value that was written, and every other key the value
    that it had. -/
theorem get?_put {α : Type} (table : Table α) (key : Text) (value : α) (other : Text) :
    (table.put key value).get? other =
      if other = key then some value else table.get? other := by
  induction table with
  | nil =>
    by_cases same : other = key
    · simp [put, get?, same]
    · simp [put, get?, List.lookup_cons, same, beq_false_of_ne same]
  | cons entry rest inductionHypothesis =>
    obtain ⟨first, old⟩ := entry
    simp only [get?] at inductionHypothesis ⊢
    by_cases here : first = key
    · by_cases same : other = key
      · simp [put, here, same]
      · simp [put, List.lookup_cons, here, same, beq_false_of_ne same]
    · by_cases found : other = first
      · simp [put, here, found]
      · simp [put, List.lookup_cons, here, beq_false_of_ne found, inductionHypothesis]

/-- The table that the entries make when they are written in order. -/
def ofEntries {α : Type} (entries : List (Text × α)) : Table α :=
  entries.foldl (fun table (key, value) => table.put key value) []

/-- The table with the entries of `changes` written over it in order. -/
def overlay {α : Type} (table changes : Table α) : Table α :=
  changes.foldl (fun table (key, value) => table.put key value) table

/-- One more count under `key`. -/
def tally (key : Text) (table : Table Int) : Table Int :=
  table.put key ((table.get? key).getD 0 + 1)

end Table

end AgentRuns
