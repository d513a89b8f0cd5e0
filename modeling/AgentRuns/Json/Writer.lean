import AgentRuns.Json.Basic
import AgentRuns.Number.Shortest

/-!
# Writing values

A value is written over several lines, two blanks deeper for each level, with
nothing at the end of the last line; empty lists and objects stay on one line.
Strings escape quotes, backslashes and controls; a writer restricted to ASCII
also escapes everything from the delete character on, as one or two code units
of four hexadecimal digits.
-/

namespace AgentRuns.Json

/-- The hexadecimal digits of a number, at least `width` of them. -/
def hex (width number : Nat) : Text := (Text.ofChars (Nat.toDigits 16 number)).leftpad width '0'

/-- A code unit as an escape of four hexadecimal digits. -/
def unitEscape (unit : Nat) : Text := '\\' :: 'u' :: hex 4 unit

/-- One character inside a string. -/
def escapeChar (ascii : Bool) (c : CodePoint) : Text :=
  match c with
  | .char '"' => ['\\', '"']
  | .char '\\' => ['\\', '\\']
  | .char '\n' => ['\\', 'n']
  | .char '\r' => ['\\', 'r']
  | .char '\t' => ['\\', 't']
  | .char '\x08' => ['\\', 'b']
  | .char '\x0c' => ['\\', 'f']
  | _ =>
    let code := c.toNat
    if code < 0x20 then unitEscape code
    else if !ascii || code < 0x7F then [c]
    else if code < 0x10000 then unitEscape code
    else
      let offset := code - 0x10000
      unitEscape (0xD800 + offset / 0x400) ++ unitEscape (0xDC00 + offset % 0x400)

/-- A string in its quotes. -/
def quote (ascii : Bool) (content : Text) : Text :=
  "\"" ++ content.flatMap (escapeChar ascii) ++ "\""

/-- A number of the binary format; what is not finite is spelled out. -/
def numberText : Binary64 → Text
  | .infinite negative => if negative then "-Infinity" else "Infinity"
  | .nan => "NaN"
  | finite => finite.text

/-- A new line at a level. -/
def newLine (level : Nat) : Text := '\n' :: List.replicate (2 * level) ' '

mutual

/-- A value whose lines, but the first, stand at `level`. -/
def writeAt (ascii : Bool) (level : Nat) : Json → Text
  | .null => "null"
  | .bool value => if value then "true" else "false"
  | .int value => Text.ofInt value
  | .float value => numberText value
  | .string value => quote ascii value
  | .list [] => "[]"
  | .list (item :: items) =>
    "[" ++ newLine (level + 1) ++ writeAt ascii (level + 1) item ++
      writeItems ascii (level + 1) items ++ newLine level ++ "]"
  | .object [] => "\x7b\x7d"
  | .object ((key, value) :: fields) =>
    "\x7b" ++ newLine (level + 1) ++ quote ascii key ++ ": " ++
      writeAt ascii (level + 1) value ++ writeFields ascii (level + 1) fields ++
      newLine level ++ "\x7d"

/-- The further items of a list. -/
def writeItems (ascii : Bool) (level : Nat) : List Json → Text
  | [] => []
  | item :: items =>
    "," ++ newLine level ++ writeAt ascii level item ++ writeItems ascii level items

/-- The further fields of an object. -/
def writeFields (ascii : Bool) (level : Nat) : List (Text × Json) → Text
  | [] => []
  | (key, value) :: fields =>
    "," ++ newLine level ++ quote ascii key ++ ": " ++ writeAt ascii level value ++
      writeFields ascii level fields

end

/-- The value in ASCII characters alone. -/
def writeAscii (json : Json) : Text := writeAt true 0 json

/-- The value with every character but controls as it is. -/
def write (json : Json) : Text := writeAt false 0 json

end AgentRuns.Json
