import AgentRuns.Number.Binary64
import AgentRuns.Text.Integer
import Mathlib.Tactic.Ring

/-!
# How large numbers get

A quotient lies below the power of two behind its logarithm. The exponent of a
number of the binary format is chosen by the logarithm, so no mantissa exceeds
its bound, and no finite number that was rounded to the format exceeds 2¹⁰²⁴.
Such a number has far fewer digits than may be written.
-/

namespace AgentRuns

namespace Quotient

/-- The quotient is less than a power of two, the exponent of any sign. -/
def Below (q : Quotient) (exponent : Int) : Prop :=
  q.top * 2 ^ (-exponent).toNat < q.bottom * 2 ^ exponent.toNat

/-- However the exponent is written as a difference, the powers of both parts
    compare the quotient. -/
theorem below_sub (q : Quotient) (up down : Nat) :
    q.Below (up - down) ↔ q.top * 2 ^ down < q.bottom * 2 ^ up := by
  rcases Nat.le_total up down with most | most
  · obtain ⟨excess, rfl⟩ := Nat.exists_eq_add_of_le most
    have negative : (-((up : Int) - (up + excess : Nat))).toNat = excess := by omega
    have positive : ((up : Int) - (up + excess : Nat)).toNat = 0 := by omega
    rw [Below, negative, positive, Nat.pow_add, Nat.mul_left_comm, Nat.mul_comm q.bottom (2 ^ up),
      Nat.pow_zero, Nat.mul_one, Nat.mul_lt_mul_left (Nat.two_pow_pos up)]
  · obtain ⟨excess, rfl⟩ := Nat.exists_eq_add_of_le most
    have negative : (-((down + excess : Nat) - (down : Int))).toNat = 0 := by omega
    have positive : ((down + excess : Nat) - (down : Int)).toNat = excess := by omega
    rw [Below, negative, positive, Nat.pow_add, Nat.mul_left_comm, Nat.mul_comm q.top (2 ^ down),
      Nat.pow_zero, Nat.mul_one, Nat.mul_lt_mul_left (Nat.two_pow_pos down)]

/-- Every exponent is a difference of counts. So laws about exponents can be told with powers
    of counts. -/
theorem exists_sub (exponent : Int) : ∃ up down : Nat, exponent = up - down :=
  ⟨exponent.toNat, (-exponent).toNat, by omega⟩

/-- What is below a power is below a greater one. -/
theorem Below.mono {q : Quotient} {less more : Int} (below : q.Below less) (most : less ≤ more) :
    q.Below more := by
  obtain ⟨up, down, rfl⟩ := exists_sub less
  obtain ⟨excess, rfl⟩ := Int.le.dest most
  have further : ((up : Int) - down + excess) = ((up + excess : Nat) : Int) - down := by omega
  rw [further, below_sub]
  have least := (below_sub q up down).mp below
  calc q.top * 2 ^ down < q.bottom * 2 ^ up := least
    _ ≤ q.bottom * 2 ^ (up + excess) :=
      Nat.mul_le_mul_left _ (Nat.pow_le_pow_right (by decide) (Nat.le_add_right up excess))

/-- Scaling by a power of two moves the bound, up or down, by as much as the exponent says. -/
theorem below_scale (q : Quotient) (exponent shift : Int) :
    (q.scale 2 shift).Below (exponent + shift) ↔ q.Below exponent := by
  obtain ⟨up, down, rfl⟩ := exists_sub exponent
  have apart : (up : Int) - down + shift =
      ((up + shift.toNat : Nat) : Int) - (down + (-shift).toNat : Nat) := by omega
  have common : 0 < 2 ^ shift.toNat * 2 ^ (-shift).toNat :=
    Nat.mul_pos (Nat.two_pow_pos _) (Nat.two_pow_pos _)
  have top : q.top * 2 ^ shift.toNat * 2 ^ (down + (-shift).toNat) =
      q.top * 2 ^ down * (2 ^ shift.toNat * 2 ^ (-shift).toNat) := by ring
  have bottom : q.bottom * 2 ^ (-shift).toNat * 2 ^ (up + shift.toNat) =
      q.bottom * 2 ^ up * (2 ^ shift.toNat * 2 ^ (-shift).toNat) := by ring
  rw [apart, below_sub, below_sub, scale]
  change q.top * 2 ^ shift.toNat * 2 ^ (down + (-shift).toNat) <
    q.bottom * 2 ^ (-shift).toNat * 2 ^ (up + shift.toNat) ↔ _
  rw [top, bottom, Nat.mul_lt_mul_right common]

/-- A quotient is below the power of two behind its logarithm. The logarithm is estimated from
    the lengths of the two counts and corrected once, and this is where the correction is seen
    to be enough. -/
theorem below_log2 (q : Quotient) (divides : 0 < q.bottom) : q.Below (q.log2 + 1) := by
  have estimated : q.Below (q.top.log2 - q.bottom.log2 + 1) := by
    have apart : (q.top.log2 : Int) - q.bottom.log2 + 1 =
        ((q.top.log2 + 1 : Nat) : Int) - q.bottom.log2 := by omega
    rw [apart, below_sub]
    calc q.top * 2 ^ q.bottom.log2 < 2 ^ (q.top.log2 + 1) * 2 ^ q.bottom.log2 :=
          Nat.mul_lt_mul_of_pos_right Nat.lt_log2_self (Nat.two_pow_pos _)
      _ ≤ 2 ^ (q.top.log2 + 1) * q.bottom :=
          Nat.mul_le_mul_left _ (Nat.log2_self_le (Nat.ne_of_gt divides))
      _ = q.bottom * 2 ^ (q.top.log2 + 1) := Nat.mul_comm _ _
  unfold log2
  dsimp only
  split
  · rename_i less
    -- The estimate is one too high, and the scaled quotient says so.
    have scaled : (q.scale 2 (-((q.top.log2 : Int) - q.bottom.log2))).Below 0 := by
      simpa [Below] using less
    rw [Int.sub_add_cancel]
    refine (q.below_scale _ (-((q.top.log2 : Int) - q.bottom.log2))).mp ?_
    rwa [Int.add_right_neg]
  · exact estimated

/-- A quotient below a power of two is not rounded beyond it. It may be rounded to the power
    itself. -/
theorem round_le (q : Quotient) (power : Nat) (below : q.Below power) : q.round ≤ 2 ^ power := by
  have least : q.top < 2 ^ power * q.bottom := by
    have natural := (below_sub q power 0).mp (by simpa using below)
    rwa [Nat.pow_zero, Nat.mul_one, Nat.mul_comm] at natural
  have floor : q.floor < 2 ^ power := Nat.div_lt_of_lt_mul (by rwa [Nat.mul_comm] at least)
  unfold round
  dsimp only
  have parity : q.floor % 2 < 2 := Nat.mod_lt _ (by decide)
  split
  · exact Nat.le_of_lt floor
  · split
    · exact floor
    · omega

end Quotient

namespace Binary64

/-- The number is a finite one of the format, or none. -/
def Fits : Binary64 → Prop
  | .finite _ mantissa exponent => mantissa ≤ mantissaBound ∧ exponent ≤ greatestExponent
  | .infinite _ | .nan => True

/-- What is rounded to the format fits it. Whatever is too large for the format is infinite,
    and that fits as well. -/
theorem ofQuotient_fits (negative : Bool) (q : Quotient) (divides : 0 < q.bottom) :
    (ofQuotient negative q).Fits := by
  have chosen : (q.scale 2 (-max (q.log2 - 52) leastExponent)).Below (53 : Nat) := by
    refine Quotient.Below.mono ((q.below_scale (q.log2 + 1) _).mpr (q.below_log2 divides)) ?_
    have atLeast := Int.le_max_left (q.log2 - 52) leastExponent
    omega
  have mantissa := Quotient.round_le _ 53 chosen
  unfold ofQuotient
  dsimp only
  split
  · exact ⟨Nat.zero_le _, by decide⟩
  · split <;> split
    · trivial
    · rename_i inside
      exact ⟨(by decide : leastFullMantissa ≤ mantissaBound), Int.not_lt.mp inside⟩
    · trivial
    · rename_i inside
      exact ⟨mantissa, Int.not_lt.mp inside⟩

/-- A product fits the format, whatever the number. This includes the products of infinities
    and of what is no number. -/
theorem times_fits (number : Binary64) (factor : Nat) : (number.times factor).Fits := by
  cases number with
  | finite negative mantissa exponent =>
    refine ofQuotient_fits negative _ ?_
    exact Nat.mul_pos Nat.one_pos (Nat.two_pow_pos _)
  | infinite => trivial
  | nan => trivial

/-- Only what is no number has no number for its product. An infinity stays what it is,
    whatever the factor. -/
theorem times_eq_nan (number : Binary64) (factor : Nat) :
    number.times factor = .nan ↔ number = .nan := by
  cases number with
  | finite negative mantissa exponent =>
    unfold times ofQuotient
    dsimp only
    split
    · simp
    · split <;> split <;> simp
  | infinite => simp [times]
  | nan => simp [times]

/-- The nearest integer of a number that fits the format is at most 2¹⁰²⁵. So the integers
    that shares and scores are rounded to are bounded by the format, whatever was measured. -/
theorem natAbs_round?_le (number : Binary64) (nearest : Int) (fits : number.Fits)
    (rounded : number.round? = some nearest) : nearest.natAbs ≤ 2 ^ 1025 := by
  cases number with
  | finite negative mantissa exponent =>
    obtain ⟨mantissaFits, exponentFits⟩ := fits
    have whole : (⟨mantissa, 1⟩ : Quotient).Below 54 := by
      have most : mantissa < 2 ^ 54 := Nat.lt_of_le_of_lt mantissaFits (by decide)
      simpa [Quotient.Below] using most
    have scaled := (Quotient.below_scale ⟨mantissa, 1⟩ 54 exponent).mpr whole
    have bounded : (magnitude mantissa exponent).round ≤ 2 ^ 1025 := by
      refine Quotient.round_le _ 1025 (scaled.mono ?_)
      have greatest : exponent ≤ 971 := exponentFits
      omega
    cases rounded
    split
    · rwa [Int.natAbs_neg]
    · exact bounded
  | infinite => cases rounded
  | nan => cases rounded

end Binary64

namespace Text

/-- A count has at most so many digits if it is below that power of ten, and only then. -/
theorem length_ofNat_le_iff (count digits : Nat) (someDigit : 0 < digits) :
    (ofNat count).length ≤ digits ↔ count < 10 ^ digits := by
  rw [ofNat, ofChars, List.length_map, Nat.length_toDigits_le_iff (by decide) someDigit]

/-- A power of two has no more digits than its exponent says. The bound is rough, and rough is
    enough for the limit on digits. -/
theorem length_ofNat_of_le (count exponent digits : Nat) (bounded : count ≤ 2 ^ exponent)
    (short : exponent < digits) : (ofNat count).length ≤ digits := by
  rw [length_ofNat_le_iff count digits (Nat.zero_lt_of_lt short)]
  calc count ≤ 2 ^ exponent := bounded
    _ ≤ 10 ^ exponent := Nat.pow_le_pow_left (by decide) exponent
    _ < 10 ^ digits := Nat.pow_lt_pow_right (by decide) short

end Text

end AgentRuns
