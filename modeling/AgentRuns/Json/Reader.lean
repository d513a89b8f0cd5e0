import AgentRuns.Json.Basic
import AgentRuns.Json.Nesting
import AgentRuns.Text.Integer

/-!
# Reading values

The reader follows the JSON grammar with three extensions: the words `NaN`,
`Infinity` and `-Infinity` are numbers, integers have any size up to the common
limit of digits, and numbers beyond the greatest finite one become infinite. Of
an object's equal keys the last value counts, at the place of the first. Blanks
are the space, the tab and the two line breaks and no other character, so a byte
order mark is refused.

An escape names a code unit. Two escapes in a row that make a surrogate pair are one
character; half a pair that stands alone is kept.

Strict and lenient reading differ in one point: only lenient reading lets a raw
control character stand inside a string.

Lists and objects take up room. A reader is given as many levels as it may open within
each other, an empty list or object among them, and it fails at the first bracket behind
them. What stands before that bracket was read by then, so a mistake further left is
reported as one, and a mistake further right is not.

The recursion is bounded by the length of the text. Reading a value consumes a
character before it reads an inner value, so the bound is never met.
-/

namespace AgentRuns.Json

/-- The text from its first character that is no blank of the grammar. -/
def skipSpace (text : Text) : Text :=
  text.dropWhile fun c => c == ' ' || c == '\t' || c == '\n' || c == '\r'

/-- The character that an escape of one letter stands for. -/
def escaped? : CodePoint → Option CodePoint
  | .char '"' => some '"'
  | .char '\\' => some '\\'
  | .char '/' => some '/'
  | .char 'b' => some '\x08'
  | .char 'f' => some '\x0c'
  | .char 'n' => some '\n'
  | .char 'r' => some '\r'
  | .char 't' => some '\t'
  | _ => none

/-- A part of a string: a code point, or a code unit that an escape names. -/
inductive Piece
  | point (point : CodePoint)
  | unit (unit : Nat)

/-- The code unit that four hexadecimal digits name. -/
def unit? (a b c d : CodePoint) : Option Nat :=
  return (((← Text.hexDigit? a) * 16 + (← Text.hexDigit? b)) * 16 + (← Text.hexDigit? c)) * 16
    + (← Text.hexDigit? d)

/-- The parts of a string up to its closing quote, and what follows the quote. -/
def quoted? (lenient : Bool) : Text → Option (List Piece × Text)
  | [] => none
  | .char '"' :: rest => some ([], rest)
  | .char '\\' :: .char 'u' :: a :: b :: c :: d :: rest => do
    let unit ← unit? a b c d
    let (pieces, after) ← quoted? lenient rest
    return (.unit unit :: pieces, after)
  | .char '\\' :: c :: rest => do
    let point ← escaped? c
    let (pieces, after) ← quoted? lenient rest
    return (.point point :: pieces, after)
  | c :: rest => do
    if c.toNat < 0x20 && !lenient then none
    let (pieces, after) ← quoted? lenient rest
    return (.point c :: pieces, after)

/-- Whether the code unit has the first place in a surrogate pair. -/
def isHighHalf (unit : Nat) : Bool := 0xD800 ≤ unit && unit < 0xDC00

/-- Whether the code unit has the second place in a surrogate pair. -/
def isLowHalf (unit : Nat) : Bool := 0xDC00 ≤ unit && unit < 0xE000

/-- The text of a string's parts. Two code units in a row that make a surrogate
    pair are one character; any other code unit is a code point by itself. -/
def joinUnits : List Piece → Text
  | [] => []
  | .point point :: rest => point :: joinUnits rest
  | .unit high :: .unit low :: rest =>
    if isHighHalf high && isLowHalf low then
      .ofNat (0x10000 + (high - 0xD800) * 0x400 + (low - 0xDC00)) :: joinUnits rest
    else .ofNat high :: joinUnits (.unit low :: rest)
  | .unit unit :: rest => .ofNat unit :: joinUnits rest

/-- A string behind its opening quote. -/
def string? (lenient : Bool) (text : Text) : Option (Text × Text) :=
  (quoted? lenient text).map fun (pieces, rest) => (joinUnits pieces, rest)

/-- The digits at the start of the text, and what follows them. -/
def digits (text : Text) : Text × Text := text.span Text.isPlainDigit

/-- The digits of a fraction, if one follows. -/
def fraction (text : Text) : Text × Text :=
  match text with
  | .char '.' :: rest =>
    let (part, after) := digits rest
    if part.isEmpty then ([], text) else (part, after)
  | _ => ([], text)

/-- An exponent, if one follows. -/
def exponent? (text : Text) : Option (Int × Text) :=
  match text with
  | mark :: rest =>
    if mark == 'e' || mark == 'E' then
      let (negative, unsigned) := Text.signed rest
      let (part, after) := digits unsigned
      let magnitude : Int := Text.plainValue part
      if part.isEmpty then none
      else some (if negative then -magnitude else magnitude, after)
    else none
  | [] => none

/-- A number without its sign: an integer if it has neither fraction nor
    exponent. -/
def unsigned? (negative : Bool) (text : Text) : Option (Json × Text) :=
  let (whole, rest) : Text × Text :=
    match text with
    | .char '0' :: rest => ("0", rest)
    | _ => digits text
  if whole.isEmpty then none
  else
    let (part, rest) := fraction rest
    let power := exponent? rest
    if part.isEmpty && power.isNone then
      let magnitude : Int := Text.plainValue whole
      if whole.length ≤ maxDigits then
        some (.int (if negative then -magnitude else magnitude), rest)
      else none
    else
      let digits := Text.plainValue (whole ++ part)
      let (power, rest) := power.getD (0, rest)
      some (.float (Binary64.ofDecimal negative digits (power - part.length)), rest)

/-- A word or a number. -/
def scalar? (text : Text) : Option (Json × Text) :=
  let word (spelling : Text) (value : Json) : Option (Json × Text) :=
    (text.after? spelling).map (value, ·)
  (word "null" .null).or <| (word "true" (.bool true)).or <|
  (word "false" (.bool false)).or <| (word "NaN" (.float .nan)).or <|
  (word "Infinity" (.float (.infinite false))).or <|
  (word "-Infinity" (.float (.infinite true))).or <|
    match text with
    | .char '-' :: rest => unsigned? true rest
    | _ => unsigned? false text

/-- Why a text is not read: it writes no value, or a bracket in it opens a level too
    many. -/
inductive Refusal
  | malformed
  | tooDeep (bracket : Bracket)

/-- What was read, where a text that writes nothing of the kind is malformed. -/
def orMalformed {α : Type} : Option α → Except Refusal α
  | some read => .ok read
  | none => .error .malformed

/-- The room that is left behind a bracket, if there is any before it. -/
def enter (bracket : Bracket) : Nat → Except Refusal Nat
  | 0 => .error (.tooDeep bracket)
  | room + 1 => .ok room

mutual

/-- One value at the start of the text, and what follows it. -/
def readValue (lenient : Bool) : Nat → Nat → Text → Except Refusal (Json × Text)
  | 0, _, _ => .error .malformed
  | bound + 1, room, text =>
    match text with
    | .char '"' :: rest =>
      (orMalformed (string? lenient rest)).map fun (content, after) => (.string content, after)
    | .char '[' :: rest => do
      let room ← enter .list room
      match skipSpace rest with
      | .char ']' :: after => return (.list [], after)
      | inside =>
        (readItems lenient bound room inside).map fun (items, after) => (.list items, after)
    | .char '{' :: rest => do
      let room ← enter .object room
      match skipSpace rest with
      | .char '}' :: after => return (.object [], after)
      | inside =>
        (readFields lenient bound room inside).map fun (fields, after) =>
          (.object (Table.ofEntries fields), after)
    | _ => orMalformed (scalar? text)

/-- The items of a list that has some, and what follows its bracket. -/
def readItems (lenient : Bool) : Nat → Nat → Text → Except Refusal (List Json × Text)
  | 0, _, _ => .error .malformed
  | bound + 1, room, text => do
    let (item, rest) ← readValue lenient bound room text
    match skipSpace rest with
    | .char ',' :: rest =>
      let (items, after) ← readItems lenient bound room (skipSpace rest)
      return (item :: items, after)
    | .char ']' :: after => return ([item], after)
    | _ => throw .malformed

/-- The fields of an object that has some, and what follows its brace. -/
def readFields (lenient : Bool) :
    Nat → Nat → Text → Except Refusal (List (Text × Json) × Text)
  | 0, _, _ => .error .malformed
  | bound + 1, room, text =>
    match text with
    | .char '"' :: rest => do
      let (key, rest) ← orMalformed (string? lenient rest)
      match skipSpace rest with
      | .char ':' :: rest =>
        let (value, rest) ← readValue lenient bound room (skipSpace rest)
        match skipSpace rest with
        | .char ',' :: rest =>
          let (fields, after) ← readFields lenient bound room (skipSpace rest)
          return ((key, value) :: fields, after)
        | .char '}' :: after => return ([(key, value)], after)
        | _ => throw .malformed
      | _ => throw .malformed
    | _ => .error .malformed

end

/-- The value that the whole text writes. -/
def read (lenient : Bool) (room : Nat) (text : Text) : Except Refusal Json := do
  let (value, rest) ← readValue lenient (2 * text.length + 2) room (skipSpace text)
  if (skipSpace rest).isEmpty then return value else throw .malformed

/-- The value of a text whose strings hold no raw control characters. -/
def readStrict (room : Nat) (text : Text) : Except Refusal Json := read false room text

/-- The value of a text whose strings may hold raw control characters. -/
def readLenient (room : Nat) (text : Text) : Except Refusal Json := read true room text

/-- The value that was read, none for a malformed text. Only nesting remains a failure. -/
def orNone : Except Refusal Json → Except Bracket (Option Json)
  | .ok value => .ok (some value)
  | .error .malformed => .ok none
  | .error (.tooDeep bracket) => .error bracket

end AgentRuns.Json
