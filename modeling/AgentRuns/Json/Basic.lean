import AgentRuns.Number.Binary64
import AgentRuns.Table

/-!
# Decoded values

A value is null, a truth value, an integer of any size, a number of the binary
format, a text, a list, or an object. Integers and other numbers are told apart
by how they were written, so `2` and `2.0` are different values. An object keeps
its keys in the order of first arrival and holds each key once.
-/

namespace AgentRuns

/-- A decoded value. -/
inductive Json
  | null
  | bool (value : Bool)
  | int (value : Int)
  | float (value : Binary64)
  | string (value : Text)
  | list (items : List Json)
  | object (fields : List (Text × Json))

namespace Json

/-- The value of a key; only objects have any. -/
def field? (json : Json) (key : Text) : Option Json :=
  match json with
  | .object fields => Table.get? fields key
  | _ => none

/-- An optional text, null where there is none. -/
def ofText? : Option Text → Json
  | some value => .string value
  | none => .null

/-- Whether the value is null, false, a zero or empty. -/
def isFalsy : Json → Bool
  | .null => true
  | .bool value => !value
  | .int value => value == 0
  | .float value => value.isZero
  | .string value => value.isEmpty
  | .list items => items.isEmpty
  | .object fields => fields.isEmpty

end Json

end AgentRuns
