import AgentRuns.Text.Blank
import AgentRuns.Text.Digit

/-!
# Integers in text

An integer is written as an optional sign and decimal digits, with single low
lines allowed between two digits and blanks around the whole. Digits of every
script count. A text of more than `maxDigits` digits is not read, and an integer
of more digits is not written: both would cost more than they can be worth.

In a text of ASCII characters alone, only the space and the controls from tab to
carriage return are blanks around the number; the information separators become
blanks nowhere, other blanks only by standing outside ASCII.
-/

namespace AgentRuns

/-- The most digits that an integer is read or written with. -/
def maxDigits : Nat := 4300

/-- What is said of an integer of more digits. -/
def tooManyDigits : Text :=
  "Exceeds the limit (4300 digits) for integer string conversion; use sys.set_int_max_str_digits() to increase the limit"

namespace Text

/-- The digit values of `1_000`, where every low line stands between digits. -/
def grouped? : Text → Option (List Nat)
  | [] => none
  | [c] => (digit? c).map ([·])
  | c :: .char '_' :: rest => do return (← digit? c) :: (← grouped? rest)
  | c :: rest => do return (← digit? c) :: (← grouped? rest)

/-- A sign, if there is one, and what follows it. -/
def signed (text : Text) : Bool × Text :=
  match text with
  | .char '-' :: rest => (true, rest)
  | .char '+' :: rest => (false, rest)
  | _ => (false, text)

/-- Blanks that may surround an integer. -/
def isIntegerBlank (c : CodePoint) : Bool :=
  c == ' ' || (0x9 ≤ c.toNat && c.toNat ≤ 0xD) || (0x7F ≤ c.toNat && isBlank c)

/-- The integer that the text writes. -/
def toInt? (text : Text) : Option Int := do
  let trimmed := ((text.dropWhile isIntegerBlank).reverse.dropWhile isIntegerBlank).reverse
  let (negative, body) := signed trimmed
  let digits ← grouped? body
  if digits.length ≤ maxDigits then
    let magnitude : Int := spell 0 digits
    return if negative then -magnitude else magnitude
  else none

/-- The digits of an integer, unless they are too many to be written. -/
def ofInt? (number : Int) : Option Text :=
  if (ofNat number.natAbs).length ≤ maxDigits then some (ofInt number) else none

end Text

end AgentRuns
