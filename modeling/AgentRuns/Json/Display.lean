import AgentRuns.Json.Writer
import AgentRuns.Text.Printable

/-!
# Values shown to readers

A summary shows a text as it is and any other value as a literal: words with a
capital letter, texts inside lists and objects in quotes. The quotes are single
unless the text holds a single quote and no double one. What cannot be printed
is shown as an escape of two, four or eight hexadecimal digits. A value that is
null, false, zero or empty is shown as nothing.
-/

namespace AgentRuns.Json

/-- One character of a literal between quotes. -/
def literalPoint (mark : Char) (c : CodePoint) : Text :=
  if c == mark || c == '\\' then ['\\', c]
  else if c == '\t' then ['\\', 't']
  else if c == '\n' then ['\\', 'n']
  else if c == '\r' then ['\\', 'r']
  else if Text.isPrintable c then [c]
  else if c.toNat < 0x100 then '\\' :: 'x' :: hex 2 c.toNat
  else if c.toNat < 0x10000 then '\\' :: 'u' :: hex 4 c.toNat
  else '\\' :: 'U' :: hex 8 c.toNat

/-- A text as a quoted literal. -/
def literalText (content : Text) : Text :=
  let mark := if content.contains (.char '\'') && !content.contains (.char '"') then '"' else '\''
  Text.ofChars [mark] ++ content.flatMap (literalPoint mark) ++ Text.ofChars [mark]

mutual

/-- A value as a literal. -/
def literal : Json → Text
  | .null => "None"
  | .bool value => if value then "True" else "False"
  | .int value => Text.ofInt value
  | .float value => value.text
  | .string value => literalText value
  | .list [] => "[]"
  | .list (item :: items) => "[" ++ literal item ++ literalItems items ++ "]"
  | .object [] => "\x7b\x7d"
  | .object ((key, value) :: fields) =>
    "\x7b" ++ literalText key ++ ": " ++ literal value ++ literalFields fields ++ "\x7d"

/-- The further items of a list. -/
def literalItems : List Json → Text
  | [] => []
  | item :: items => ", " ++ literal item ++ literalItems items

/-- The further fields of an object. -/
def literalFields : List (Text × Json) → Text
  | [] => []
  | (key, value) :: fields =>
    ", " ++ literalText key ++ ": " ++ literal value ++ literalFields fields

end

/-- The value as a summary shows it. -/
def shown (json : Json) : Text :=
  match json with
  | .string value => value
  | _ => if json.isFalsy then [] else literal json

end AgentRuns.Json
