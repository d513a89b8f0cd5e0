import AgentRuns.Number.Reading
import AgentRuns.Validation.Basic

/-!
# Checks of single values

Each check takes a value and yields what the library keeps of it. Texts must be
texts. Numbers are taken more freely: truth values count as one and zero, texts
are read, and a number without a fraction counts as an integer.

The checks of fields are built from these: a required field must be there, any
other has a value for when it is not.
-/

namespace AgentRuns.Check

/-- A text. -/
def text : Json → Checked Text
  | .string value => .valid value
  | _ => .fail .notAText

/-- A value or null. -/
def nullable {α : Type} (check : Json → Checked α) : Json → Checked (Option α)
  | .null => .valid none
  | json => some <$> check json

/-- A text or null. -/
def optionalText : Json → Checked (Option Text) := nullable text

/-- One of the choices, by its name. -/
def choice {α : Type} (ofName? : Text → Option α) : Json → Checked α
  | .string name =>
    match ofName? name with
    | some value => .valid value
    | none => .fail .notAChoice
  | _ => .fail .notAChoice

/-- The bound of the magnitudes of 64-bit words, 2⁶³. -/
def wordBound : Nat := 0x8000000000000000

/-- An integer from a number of the binary format: without a fraction and within
    the range of 64-bit words. -/
def integerOfNumber (number : Binary64) : Checked Int :=
  if number.hasFraction then .fail .fractional
  else match number.round? with
    | some whole => if whole.natAbs < wordBound then .valid whole else .fail .integerTooLong
    | none => .fail .notFinite

/-- An integer. -/
def integer : Json → Checked Int
  | .int value => .valid value
  | .bool value => .valid (if value then 1 else 0)
  | .float number => integerOfNumber number
  | .string text =>
    if Text.opensTooLong text then .fail .integerTooLong
    else match Text.documentInt? text with
      | some value => .valid value
      | none => .fail .notAnIntegerText
  | _ => .fail .notAnInteger

/-- A number. -/
def number : Json → Checked Binary64
  | .float value => .valid value
  | .bool value => .valid (if value then .ofInt 1 else .ofInt 0)
  | .int value =>
    match Binary64.ofInt value with
    | .infinite _ => .fail .notANumber
    | finite => .valid finite
  | .string text =>
    match Text.documentNumber? text with
    | some value => .valid value
    | none => .fail .notANumberText
  | _ => .fail .notANumber

/-- The checks of a list's items, reported under their positions. -/
def itemsFrom {α : Type} (check : Json → Checked α) (position : Nat) :
    List Json → Checked (List α)
  | [] => .valid []
  | item :: rest =>
    List.cons <$> (check item).under (Text.ofNat position) <*>
      itemsFrom check (position + 1) rest

/-- A list. -/
def list {α : Type} (check : Json → Checked α) : Json → Checked (List α)
  | .list items => itemsFrom check 0 items
  | _ => .fail .notAList

/-- The checks of a table's values, reported under their keys. -/
def entries {α : Type} (check : Json → Checked α) : Table Json → Checked (Table α)
  | [] => .valid []
  | (key, value) :: rest =>
    (fun value rest => (key, value) :: rest) <$> (check value).under key <*>
      entries check rest

/-- A table with any keys. -/
def table {α : Type} (check : Json → Checked α) : Json → Checked (Table α)
  | .object fields => entries check fields
  | _ => .fail .notATable

/-- An object with known fields. -/
def object {α : Type} (check : Table Json → Checked α) : Json → Checked α
  | .object fields => check fields
  | _ => .fail .notAnObject

/-- A field that must be there. -/
def required {α : Type} (fields : Table Json) (key : Text) (check : Json → Checked α) :
    Checked α :=
  match fields.get? key with
  | some value => (check value).under key
  | none => Checked.under key (.fail .missing)

/-- A field with a value for when it is not there. -/
def optional {α : Type} (fields : Table Json) (key : Text) (check : Json → Checked α)
    (otherwise : α) : Checked α :=
  match fields.get? key with
  | some value => (check value).under key
  | none => .valid otherwise

end AgentRuns.Check
