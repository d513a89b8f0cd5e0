import AgentRuns.Text.Digit
import AgentRuns.Text.Integer
import Mathlib.Data.List.TakeWhile

/-!
# The digits of a number

A count is written in plain digits, the first of which is a zero for zero alone,
and these digits write it. An integer is written as the count of its magnitude,
behind a sign if it is negative.
-/

namespace AgentRuns.Text

/-- The digits of a count are plain ones. There is no sign among them and no low line. -/
theorem isPlainDigit_of_mem_ofNat (count : Nat) : ∀ c ∈ ofNat count, isPlainDigit c = true := by
  intro c member
  obtain ⟨digit, written, rfl⟩ := List.mem_map.mp member
  have decimal := Nat.isDigit_of_mem_toDigits (by decide) (by decide) written
  rw [Char.isDigit, Bool.and_eq_true, decide_eq_true_eq, decide_eq_true_eq] at decimal
  rw [isPlainDigit, CodePoint.within, Bool.and_eq_true, decide_eq_true_eq, decide_eq_true_eq]
  exact decimal

/-- The digits of a count begin with one, which is the zero for zero alone. So no count is
    written with leading zeros. -/
theorem ofNat_opens (count : Nat) :
    ∃ c rest, ofNat count = .char c :: rest ∧ c.isDigit = true ∧ (c = '0' → count = 0) := by
  induction count using Nat.strongRecOn with
  | ind count inductionHypothesis =>
    by_cases single : count < 10
    · have digits : ∀ digit < 10, (Nat.digitChar digit).isDigit = true ∧
          (Nat.digitChar digit = '0' → digit = 0) := by decide
      refine ⟨Nat.digitChar count, [], ?_, digits count single⟩
      rw [ofNat, Nat.toDigits_of_lt_base single]
      rfl
    · obtain ⟨c, rest, leading, digit, zero⟩ := inductionHypothesis (count / 10) (by omega)
      refine ⟨c, rest ++ [.char (Nat.digitChar (count % 10))], ?_, digit, fun same => ?_⟩
      · rw [ofNat, ofChars] at leading
        rw [ofNat, Nat.toDigits_of_base_le (by decide) (Nat.not_lt.mp single), ofChars,
          List.map_append, leading]
        rfl
      · have none := zero same
        omega

/-- Reading digits goes on from the number that was read so far. It is the reading of the
    standard library. -/
theorem spell_ofChars (digits : List Char) (sofar : Nat) :
    spell sofar ((ofChars digits).map (·.toNat - 48)) = Nat.ofDigitChars 10 digits sofar := by
  induction digits generalizing sofar with
  | nil => rfl
  | cons c digits inductionHypothesis =>
    rw [Nat.ofDigitChars_cons, Nat.mul_comm 10 sofar, ← inductionHypothesis]
    rfl

/-- The digits of a count write it. Reading them gives the count back. -/
theorem plainValue_ofNat (count : Nat) : plainValue (ofNat count) = count := by
  rw [plainValue, ofNat, spell_ofChars, Nat.ofDigitChars_ten_toDigits]

/-- An integer is written as the digits of its magnitude behind its sign. Zero has no sign. -/
theorem ofInt_eq (number : Int) :
    ofInt number =
      if number < 0 then .char '-' :: ofNat number.natAbs else ofNat number.natAbs := by
  cases number with
  | ofNat count => exact (if_neg (by simp)).symm
  | negSucc count => exact (if_pos (Int.negSucc_lt_zero count)).symm

/-- What is no plain digit stands in no count. Blanks, points and signs are all met by this. -/
theorem notMem_ofNat (c : CodePoint) (other : isPlainDigit c = false) (count : Nat) :
    c ∉ ofNat count := by
  intro member
  rw [isPlainDigit_of_mem_ofNat count c member] at other
  cases other

/-- What is neither a plain digit nor the sign stands in no integer. -/
theorem notMem_ofInt (c : CodePoint) (other : isPlainDigit c = false) (noSign : c ≠ .char '-')
    (number : Int) : c ∉ ofInt number := by
  rw [ofInt_eq]
  split
  · exact List.not_mem_cons_of_ne_of_not_mem noSign (notMem_ofNat c other _)
  · exact notMem_ofNat c other _

/-- An integer that can be written has few digits. Its sign is not counted among them. -/
theorem length_of_ofInt? (number : Int) (short : (ofInt? number).isSome = true) :
    (ofNat number.natAbs).length ≤ maxDigits := by
  unfold ofInt? at short
  split at short
  · assumption
  · cases short

end AgentRuns.Text
