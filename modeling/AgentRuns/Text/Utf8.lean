import AgentRuns.Text.Basic

/-!
# Octets and text

A file is a list of octets. Decoding is a machine that takes one octet at a
time: between characters it classifies a lead octet, inside a character it
admits only the octets that can still complete it. An octet that cannot be
admitted ends the damaged part before it and is then judged anew, so each
maximal damaged part counts once and never swallows the octet behind it.

Two readers share the machine. The lossy one writes a replacement character for
each damaged part; the strict one refuses damaged input altogether. A byte order
mark is a character like any other.
-/

namespace AgentRuns

/-- The content of a file. -/
abbrev Bytes := List UInt8

namespace Utf8

/-- What octets decode to: a character, or a damaged part. -/
inductive Part
  | char (c : Char)
  | damage (octets : Bytes)

/-- Where decoding stands between two octets. Inside a character, some octets are
    `taken` and `owed` octets are still to come, the next of them from `low` to
    `high`. -/
inductive State
  | between
  | within (taken : Bytes) (owed code low high : Nat)

/-- A lead octet: the state behind it, and the character or the damage that it
    is by itself. -/
def lead (octet : UInt8) : State × List Part :=
  let number := octet.toNat
  if number ≤ 0x7F then (.between, [.char (Char.ofNat number)])
  else if number < 0xC2 then (.between, [.damage [octet]])
  else if number ≤ 0xDF then (.within [octet] 1 (number - 0xC0) 0x80 0xBF, [])
  else if number = 0xE0 then (.within [octet] 2 0 0xA0 0xBF, [])
  else if number = 0xED then (.within [octet] 2 (number - 0xE0) 0x80 0x9F, [])
  else if number ≤ 0xEF then (.within [octet] 2 (number - 0xE0) 0x80 0xBF, [])
  else if number = 0xF0 then (.within [octet] 3 0 0x90 0xBF, [])
  else if number ≤ 0xF3 then (.within [octet] 3 (number - 0xF0) 0x80 0xBF, [])
  else if number = 0xF4 then (.within [octet] 3 (number - 0xF0) 0x80 0x8F, [])
  else (.between, [.damage [octet]])

/-- One octet: the state behind it, and what it completes. -/
def step : State → UInt8 → State × List Part
  | .between, octet => lead octet
  | .within taken owed code low high, octet =>
    if low ≤ octet.toNat ∧ octet.toNat ≤ high then
      let extended := code * 0x40 + (octet.toNat - 0x80)
      if owed = 1 then (.between, [.char (Char.ofNat extended)])
      else (.within (taken ++ [octet]) (owed - 1) extended 0x80 0xBF, [])
    else
      let (state, out) := lead octet
      (state, .damage taken :: out)

/-- The characters and damaged parts of the octets, from a state. -/
def decodeFrom : State → Bytes → List Part
  | .between, [] => []
  | .within taken .., [] => [.damage taken]
  | state, octet :: rest =>
    let (next, out) := step state octet
    out ++ decodeFrom next rest

/-- The characters and damaged parts of the octets. -/
def decode (bytes : Bytes) : List Part := decodeFrom .between bytes

/-- The characters of the octets, with one replacement character for each
    damaged part. -/
def decodeLossy (bytes : Bytes) : Text :=
  (decode bytes).map fun part =>
    match part with
    | .char c => c
    | .damage _ => '\uFFFD'

/-- The characters of the octets, if nothing is damaged. -/
def decode? (bytes : Bytes) : Option Text :=
  (decode bytes).mapM fun part =>
    match part with
    | .char c => some (.char c)
    | .damage _ => none

/-- The octets of a text, with a replacement character for each half of a pair. -/
def encode (text : Text) : Bytes := text.flatMap fun c => String.utf8EncodeChar c.shown

end Utf8

end AgentRuns
