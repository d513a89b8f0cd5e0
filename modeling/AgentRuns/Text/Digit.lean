import AgentRuns.Text.Basic

/-!
# Digits

The decimal digits of every script come in runs of ten, from zero to nine. The
table holds the code points of the zeros in ascending order; a digit's value is
its distance from the zero of its run.

Formats of data know the ten ASCII digits only, and six letters of either case
besides them where digits are hexadecimal.
-/

namespace AgentRuns.Text

/-- The code point of the zero of every run of decimal digits. -/
def digitZeros : List Nat :=
  [0x30, 0x660, 0x6F0, 0x7C0, 0x966, 0x9E6, 0xA66, 0xAE6, 0xB66, 0xBE6, 0xC66,
    0xCE6, 0xD66, 0xDE6, 0xE50, 0xED0, 0xF20, 0x1040, 0x1090, 0x17E0, 0x1810,
    0x1946, 0x19D0, 0x1A80, 0x1A90, 0x1B50, 0x1BB0, 0x1C40, 0x1C50, 0xA620,
    0xA8D0, 0xA900, 0xA9D0, 0xA9F0, 0xAA50, 0xABF0, 0xFF10, 0x104A0, 0x10D30,
    0x11066, 0x110F0, 0x11136, 0x111D0, 0x112F0, 0x11450, 0x114D0, 0x11650,
    0x116C0, 0x11730, 0x118E0, 0x11950, 0x11C50, 0x11D50, 0x11DA0, 0x16A60,
    0x16AC0, 0x16B50, 0x1D7CE, 0x1D7D8, 0x1D7E2, 0x1D7EC, 0x1D7F6, 0x1E140,
    0x1E2F0, 0x1E950, 0x1FBF0]

/-- The value of a decimal digit of any script. -/
def digit? (c : CodePoint) : Option Nat :=
  (digitZeros.find? fun first => first ≤ c.toNat && c.toNat < first + 10).map (c.toNat - ·)

/-- Whether the character is a decimal digit of any script. -/
def isDigit (c : CodePoint) : Bool := (digit? c).isSome

/-- Whether the character is one of the ASCII digits. -/
def isPlainDigit (c : CodePoint) : Bool := c.within '0' '9'

/-- The value of a hexadecimal digit. -/
def hexDigit? (c : CodePoint) : Option Nat :=
  if c.within '0' '9' then some (c.toNat - 48)
  else if c.within 'a' 'f' then some (c.toNat - 87)
  else if c.within 'A' 'F' then some (c.toNat - 55)
  else none

/-- The number that digit values spell, high digit first, after `sofar`. -/
def spell (sofar : Nat) : List Nat → Nat
  | [] => sofar
  | digit :: rest => spell (sofar * 10 + digit) rest

/-- The number that ASCII digits write. -/
def plainValue (digits : Text) : Nat := spell 0 (digits.map (·.toNat - 48))

end AgentRuns.Text
