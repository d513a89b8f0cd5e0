import AgentRuns.Text.Utf8

/-!
# File names

A file system keeps names as octets. A text names a file by its octets, where an
octet that belongs to no character is written as a half of a surrogate pair: the
halves from U+DC80 to U+DCFF stand for the octets from 0x80 to 0xFF. No name
holds any other half, or the null character.

Texts that stand for the same octets name the same file. The canonical one of
them writes as much as it can as characters.
-/

namespace AgentRuns.FileName

/-- The octet that a half of a pair stands for. -/
def octet? (c : CodePoint) : Option UInt8 :=
  if 0xDC80 ≤ c.toNat && c.toNat ≤ 0xDCFF then some (UInt8.ofNat (c.toNat - 0xDC00)) else none

/-- The half of a pair that stands for an octet from 0x80 on. -/
def ofOctet (octet : UInt8) : CodePoint := .ofNat (0xDC00 + octet.toNat)

/-- Whether the code point is a half of a pair that no name holds. -/
def isForeign (c : CodePoint) : Bool := c.isHalf && (octet? c).isNone

/-- The octets of a name. -/
def encode (name : Text) : Bytes :=
  name.flatMap fun c =>
    match octet? c with
    | some octet => [octet]
    | none => Utf8.encode [c]

/-- The name of octets. -/
def decode (octets : Bytes) : Text :=
  (Utf8.decode octets).flatMap fun part =>
    match part with
    | .char c => [.char c]
    | .damage octets => octets.map ofOctet

/-- The canonical name of the same file. A text that is no name stays as it is. -/
def canonical (name : Text) : Text :=
  if name.any isForeign then name else decode (encode name)

end AgentRuns.FileName
