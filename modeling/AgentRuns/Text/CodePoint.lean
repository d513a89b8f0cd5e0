/-!
# Code points

A code point is a character, or one half of a surrogate pair that stands alone.
Documents can hold such halves, since they may write a text as escapes of code
units. A half counts as one in every length, equals itself only, and stands
between the characters in the order of their numbers. It is in no class of
characters and has no form of its own: where characters alone can be written, a
replacement character stands for it.
-/

namespace AgentRuns

/-- A character, or half a surrogate pair by its place among the halves. -/
inductive CodePoint
  | char (c : Char)
  | half (place : Fin 0x800)
  deriving DecidableEq

instance : Coe Char CodePoint := ⟨.char⟩

namespace CodePoint

/-- The number of the first half. -/
def firstHalf : Nat := 0xD800

/-- The number of a code point. -/
def toNat : CodePoint → Nat
  | .char c => c.toNat
  | .half place => firstHalf + place

/-- The code point of a number, which is the number of one. -/
def ofNat (code : Nat) : CodePoint :=
  if inside : firstHalf ≤ code ∧ code < firstHalf + 0x800 then
    .half ⟨code - firstHalf, by omega⟩
  else .char (Char.ofNat code)

/-- Every code point is told by its number. -/
theorem ofNat_toNat (point : CodePoint) : ofNat point.toNat = point := by
  cases point with
  | char c =>
    have outside : ¬(firstHalf ≤ c.toNat ∧ c.toNat < firstHalf + 0x800) := by
      have valid := c.valid
      simp only [firstHalf, Char.toNat, UInt32.isValidChar, Nat.isValidChar] at valid ⊢
      omega
    simp [ofNat, toNat, outside, Char.ofNat_toNat]
  | half place =>
    have bounded := place.isLt
    have inside : firstHalf ≤ firstHalf + place.val ∧
        firstHalf + place.val < firstHalf + 0x800 := by omega
    simp [ofNat, toNat, inside]

/-- Whether the code point is no character. -/
def isHalf : CodePoint → Bool
  | .char _ => false
  | .half _ => true

/-- Whether the code point stands between two characters, both included. -/
def within (first last : Char) (point : CodePoint) : Bool :=
  first.toNat ≤ point.toNat && point.toNat ≤ last.toNat

/-- The character itself, or a replacement character for a half. -/
def shown : CodePoint → Char
  | .char c => c
  | .half _ => '\uFFFD'

end CodePoint

end AgentRuns
