import AgentRuns.Json.Reader
import AgentRuns.Proofs.Number.Bounds
import AgentRuns.Proofs.Table
import Mathlib.Data.List.TakeDrop
import Mathlib.Data.List.TakeWhile

/-!
# Limits of what is read

An integer is read only if it has few enough digits, so every integer that was
read can be written again.
-/

namespace AgentRuns

namespace Text

/-- Digits spell a number below the power of ten that counts them. What was spelt before them
    is moved up by as many places, which is the form the induction on the digits needs. -/
theorem spell_lt (values : List Nat) (sofar : Nat) (digits : ∀ value ∈ values, value ≤ 9) :
    spell sofar values < (sofar + 1) * 10 ^ values.length := by
  induction values generalizing sofar with
  | nil => simp [spell]
  | cons value values inductionHypothesis =>
    have first : value ≤ 9 := digits value List.mem_cons_self
    have others := inductionHypothesis (sofar * 10 + value) fun other member =>
      digits other (List.mem_cons_of_mem value member)
    calc spell sofar (value :: values) < (sofar * 10 + value + 1) * 10 ^ values.length := others
      _ ≤ ((sofar + 1) * 10) * 10 ^ values.length := Nat.mul_le_mul_right _ (by omega)
      _ = (sofar + 1) * 10 ^ (value :: values).length := by
        rw [List.length_cons, Nat.pow_succ]
        ring

/-- A plain digit has its value in one place. No digit but those from zero to nine is plain. -/
theorem plainDigit_le (c : CodePoint) (plain : isPlainDigit c = true) : c.toNat - 48 ≤ 9 := by
  have bounds : 48 ≤ c.toNat ∧ c.toNat ≤ 57 := by
    simpa [isPlainDigit, CodePoint.within] using plain
  omega

/-- A number has no more digits than were written. Leading zeros make it smaller and do no
    harm. -/
theorem plainValue_lt (digits : Text) (plain : ∀ c ∈ digits, isPlainDigit c = true) :
    plainValue digits < 10 ^ digits.length := by
  have bounded : ∀ value ∈ digits.map (·.toNat - 48), value ≤ 9 := by
    intro value member
    obtain ⟨c, given, rfl⟩ := List.mem_map.mp member
    exact plainDigit_le c (plain c given)
  have spelled := spell_lt _ 0 bounded
  rw [List.length_map, Nat.zero_add, Nat.one_mul] at spelled
  exact spelled

end Text

namespace Json

/-- If the value is an integer, it can be written. -/
def Writable (json : Json) : Prop :=
  ∀ number, json = .int number → (Text.ofNat number.natAbs).length ≤ maxDigits

/-- A value without parts, an integer among them one that can be written. -/
def Scalar : Json → Prop
  | .int number => (Text.ofNat number.natAbs).length ≤ maxDigits
  | .null | .bool _ | .float _ => True
  | .string _ | .list _ | .object _ => False

/-- The leading digits of a text are digits. Those of other scripts end them. -/
theorem digits_plain (text : Text) : ∀ c ∈ (digits text).1, Text.isPlainDigit c = true := by
  rw [digits, List.span_eq_takeWhile_dropWhile]
  intro c member
  exact List.mem_takeWhile_imp member

/-- What digits within the limit write can be written, with a minus or without. Writing counts
    the digits of the number, and these are no more than those that were read. -/
theorem scalar_of_digits (negative : Bool) (digits : Text)
    (plain : ∀ c ∈ digits, Text.isPlainDigit c = true) (within : digits.length ≤ maxDigits) :
    (int (if negative then -(Text.plainValue digits : Int)
      else Text.plainValue digits)).Scalar := by
  have natural : (if negative then -(Text.plainValue digits : Int)
      else Text.plainValue digits).natAbs = Text.plainValue digits := by
    split
    · rw [Int.natAbs_neg, Int.natAbs_natCast]
    · rw [Int.natAbs_natCast]
  rw [Scalar, natural, Text.length_ofNat_le_iff _ maxDigits (by decide)]
  calc Text.plainValue digits < 10 ^ digits.length := Text.plainValue_lt digits plain
    _ ≤ 10 ^ maxDigits := Nat.pow_le_pow_right (by decide) within

/-- A number without its sign is read within the limit. A fraction or an exponent makes it a
    float, which is written whatever it is. -/
theorem unsigned?_scalar (negative : Bool) (text rest : Text) (value : Json)
    (read : unsigned? negative text = some (value, rest)) : value.Scalar := by
  unfold unsigned? at read
  dsimp only at read
  split at read
  case' h_1 => have leading : ∀ c ∈ ("0" : Text), Text.isPlainDigit c = true := by decide
  case' h_2 => have leading := digits_plain text
  all_goals
    split at read
    · cases read
    · split at read
      · split at read
        · rename_i within
          cases read
          exact scalar_of_digits negative _ leading within
        · cases read
      · cases read
        trivial

/-- A word or a number is read within the limit. Words write themselves, and a number has had
    its digits counted. -/
theorem scalar?_scalar (text rest : Text) (value : Json)
    (read : scalar? text = some (value, rest)) : value.Scalar := by
  have word (spelling : Text) (other : Json)
      (spelled : (text.after? spelling).map (other, ·) = some (value, rest))
      (scalar : other.Scalar) : value.Scalar := by
    obtain ⟨after, _, pair⟩ := Option.map_eq_some_iff.mp spelled
    cases pair
    exact scalar
  unfold scalar? at read
  simp only [Option.or_eq_some_iff] at read
  rcases read with spelled | ⟨_, spelled | ⟨_, spelled | ⟨_, spelled | ⟨_, spelled | ⟨_, spelled |
    ⟨_, unsigned⟩⟩⟩⟩⟩⟩
  case inr.inr.inr.inr.inr.inr =>
    split at unsigned
    · exact unsigned?_scalar true _ rest value unsigned
    · exact unsigned?_scalar false _ rest value unsigned
  all_goals exact word _ _ spelled trivial

end Json

end AgentRuns
