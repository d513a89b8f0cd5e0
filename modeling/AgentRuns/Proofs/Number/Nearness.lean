import AgentRuns.Proofs.Number.Bounds
import Mathlib.Algebra.Order.Floor.Semifield
import Mathlib.Data.Rat.Floor
import Mathlib.Tactic.FieldSimp
import Mathlib.Tactic.Linarith
import Mathlib.Tactic.Positivity

/-!
# How near rounding stays

A quotient is read as a rational number here. Its logarithm encloses it between
two powers of two, so the mantissa of the number that it is rounded to has
fifty-three digits, and rounding moves it by half a unit of the last one at
most. In relation to the quotient that is a part in 2⁵³, as long as the quotient
is neither tiny nor huge.
-/

namespace AgentRuns

namespace Quotient

/-- The quotient as a rational number. -/
def value (q : Quotient) : ℚ := q.top / q.bottom

/-- A quotient is not negative, being made of two counts. A quotient by zero has the value
    zero. -/
theorem value_nonneg (q : Quotient) : 0 ≤ q.value := by
  unfold value
  positivity

/-- A quotient is below a power of two as a pair of counts if it is as a number. The pair is
    what the program compares. -/
theorem below_iff (q : Quotient) (exponent : Int) (divides : 0 < q.bottom) :
    q.Below exponent ↔ q.value < 2 ^ exponent := by
  obtain ⟨up, down, rfl⟩ := exists_sub exponent
  have bottom : (0 : ℚ) < q.bottom := by exact_mod_cast divides
  have scale : (0 : ℚ) < 2 ^ down := by positivity
  rw [below_sub, value, zpow_sub₀ (by norm_num), zpow_natCast, zpow_natCast,
    div_lt_div_iff₀ bottom scale, mul_comm ((2 : ℚ) ^ up)]
  exact_mod_cast Iff.rfl

/-- Scaling by a power of two multiplies the value by it. A negative exponent scales the other
    count. -/
theorem value_scale (q : Quotient) (exponent : Int) :
    (q.scale 2 exponent).value = q.value * 2 ^ exponent := by
  have apart : exponent = (exponent.toNat : Int) - ((-exponent).toNat : Int) := by omega
  have power : (2 : ℚ) ^ exponent = 2 ^ exponent.toNat / 2 ^ (-exponent).toNat := by
    conv_lhs => rw [apart]
    rw [zpow_sub₀ (by norm_num), zpow_natCast, zpow_natCast]
  simp only [scale, value, power, Nat.pow_eq]
  push_cast
  rw [mul_div_mul_comm]

/-- Adding a half to the pair of counts adds a half to the value. -/
theorem value_addHalf (q : Quotient) (divides : 0 < q.bottom) :
    q.addHalf.value = q.value + 1 / 2 := by
  have bottom : (q.bottom : ℚ) ≠ 0 := by exact_mod_cast Nat.ne_of_gt divides
  simp only [addHalf, value]
  push_cast
  field_simp

/-- The whole part that the division of counts gives is that of the value. -/
theorem floor_eq (q : Quotient) : q.floor = ⌊q.value⌋₊ :=
  (Nat.floor_div_eq_div q.top q.bottom).symm

/-- Rounding goes down or up, and to the side that is not farther. A tie goes to the even
    side, which both cases allow. -/
theorem round_cases (q : Quotient) :
    (q.round = q.floor ∧ 2 * (q.top % q.bottom) ≤ q.bottom) ∨
      (q.round = q.floor + 1 ∧ q.bottom ≤ 2 * (q.top % q.bottom)) := by
  unfold round
  dsimp only
  by_cases less : 2 * (q.top % q.bottom) < q.bottom
  · rw [if_pos less]
    exact Or.inl ⟨rfl, Nat.le_of_lt less⟩
  · rw [if_neg less]
    by_cases more : q.bottom < 2 * (q.top % q.bottom)
    · rw [if_pos more]
      exact Or.inr ⟨rfl, Nat.le_of_lt more⟩
    · rw [if_neg more]
      omega

/-- Rounding moves a quotient by one half at most. Neither side is excluded for a tie. -/
theorem abs_round_sub (q : Quotient) (divides : 0 < q.bottom) :
    |(q.round : ℚ) - q.value| ≤ 1 / 2 := by
  have bottom : (0 : ℚ) < q.bottom := by exact_mod_cast divides
  have split : (q.top : ℚ) = q.floor * q.bottom + (q.top % q.bottom : Nat) := by
    exact_mod_cast (Nat.div_add_mod' q.top q.bottom).symm
  have value : q.value = q.floor + (q.top % q.bottom : Nat) / q.bottom := by
    rw [Quotient.value, split]
    field_simp
  rw [value, abs_le]
  rcases q.round_cases with ⟨down, near⟩ | ⟨up, near⟩
  · have least : (0 : ℚ) ≤ (q.top % q.bottom : Nat) / q.bottom := by positivity
    have most : ((q.top % q.bottom : Nat) : ℚ) / q.bottom ≤ 1 / 2 := by
      rw [div_le_div_iff₀ bottom (by norm_num)]
      exact_mod_cast (by omega : q.top % q.bottom * 2 ≤ 1 * q.bottom)
    rw [down]
    constructor <;> linarith
  · have least : (1 : ℚ) / 2 ≤ (q.top % q.bottom : Nat) / q.bottom := by
      rw [div_le_div_iff₀ (by norm_num) bottom]
      exact_mod_cast (by omega : 1 * q.bottom ≤ q.top % q.bottom * 2)
    have most : ((q.top % q.bottom : Nat) : ℚ) / q.bottom < 1 := by
      rw [div_lt_one bottom]
      exact_mod_cast Nat.mod_lt q.top divides
    rw [up]
    push_cast
    constructor <;> linarith

/-- The power of two of its logarithm is not above a quotient. Together with `below_log2` this
    encloses the quotient between two powers. -/
theorem not_below_log2 (q : Quotient) (someTop : 0 < q.top) : ¬q.Below q.log2 := by
  unfold log2
  dsimp only
  split
  · have apart : (q.top.log2 : Int) - q.bottom.log2 - 1 =
        (q.top.log2 : Int) - (q.bottom.log2 + 1 : Nat) := by omega
    rw [apart, below_sub, Nat.not_lt]
    calc q.bottom * 2 ^ q.top.log2 ≤ 2 ^ (q.bottom.log2 + 1) * 2 ^ q.top.log2 :=
          Nat.mul_le_mul_right _ (Nat.le_of_lt Nat.lt_log2_self)
      _ ≤ 2 ^ (q.bottom.log2 + 1) * q.top :=
          Nat.mul_le_mul_left _ (Nat.log2_self_le (Nat.ne_of_gt someTop))
      _ = q.top * 2 ^ (q.bottom.log2 + 1) := Nat.mul_comm _ _
  · rename_i notLess
    intro below
    apply notLess
    have scaled := (q.below_scale _ (-((q.top.log2 : Int) - q.bottom.log2))).mpr below
    rw [Int.add_right_neg] at scaled
    simpa [Below] using scaled

end Quotient

namespace Binary64

/-- A mantissa with an exponent has the value that they say, also where the exponent is
    negative. -/
theorem value_magnitude (mantissa : Nat) (exponent : Int) :
    (magnitude mantissa exponent).value = mantissa * 2 ^ exponent := by
  rw [magnitude, Quotient.value_scale]
  simp [Quotient.value]

/-- A finite number without a sign that differs from a rational one by a given
    error at most. -/
def Within (number : Binary64) (x error : ℚ) : Prop :=
  ∃ mantissa exponent, number = .finite false mantissa exponent ∧
    |(magnitude mantissa exponent).value - x| ≤ error

/-- What is near enough is near enough for a greater error. -/
theorem Within.mono {number : Binary64} {x error more : ℚ} (within : number.Within x error)
    (most : error ≤ more) : number.Within x more := by
  obtain ⟨mantissa, exponent, finite, near⟩ := within
  exact ⟨mantissa, exponent, finite, near.trans most⟩

/-- Half a unit of the last of fifty-three digits is a part in 2⁵³. The quotient is at least
    as large as the unit of the first digit. -/
theorem near_of_scaled (x : ℚ) (mantissa : Nat) (exponent : Int)
    (rounded : |(mantissa : ℚ) - x * 2 ^ (-exponent)| ≤ 1 / 2)
    (least : 2 ^ (exponent + 52) ≤ x) : |mantissa * 2 ^ exponent - x| ≤ x / 2 ^ 53 := by
  have unit : (0 : ℚ) < 2 ^ exponent := zpow_pos (by norm_num) exponent
  have back : mantissa * 2 ^ exponent - x =
      ((mantissa : ℚ) - x * 2 ^ (-exponent)) * 2 ^ exponent := by
    rw [zpow_neg]
    field_simp
  have digits : (2 : ℚ) ^ exponent * 2 ^ 52 ≤ x := by
    calc (2 : ℚ) ^ exponent * 2 ^ 52 = 2 ^ (exponent + 52) := by
          rw [zpow_add₀ (by norm_num)]
          norm_num
      _ ≤ x := least
  calc |mantissa * 2 ^ exponent - x|
      = |(mantissa : ℚ) - x * 2 ^ (-exponent)| * 2 ^ exponent := by
        rw [back, abs_mul, abs_of_pos unit]
    _ ≤ 1 / 2 * 2 ^ exponent := mul_le_mul_of_nonneg_right rounded unit.le
    _ ≤ x / 2 ^ 53 := by
        rw [le_div_iff₀ (by norm_num)]
        linarith

/-- A quotient that is neither tiny nor huge is moved by a part in 2⁵³ at most. Within these
    bounds the format keeps all of the fifty-three digits. -/
theorem ofQuotient_within (q : Quotient) (divides : 0 < q.bottom) (least : ¬q.Below (-1022))
    (most : q.Below 1023) : (ofQuotient false q).Within q.value (q.value / 2 ^ 53) := by
  have someTop : 0 < q.top := by
    rw [Nat.pos_iff_ne_zero]
    intro none
    apply least
    rw [q.below_iff _ divides, Quotient.value, none]
    norm_num
  have upper := q.below_log2 divides
  have lower := q.not_below_log2 someTop
  have notTiny : -1022 ≤ q.log2 := by
    by_contra tiny
    exact least (upper.mono (by omega))
  have notHuge : q.log2 < 1023 := by
    by_contra huge
    exact lower (most.mono (by omega))
  have chosen : max (q.log2 - 52) leastExponent = q.log2 - 52 := by
    simp only [leastExponent]
    omega
  have scaled := (q.scale 2 (-(q.log2 - 52))).abs_round_sub
    (Nat.mul_pos divides (Nat.two_pow_pos _))
  rw [Quotient.value_scale] at scaled
  rw [q.below_iff _ divides, not_lt] at lower
  have near := near_of_scaled q.value _ (q.log2 - 52) scaled (by rwa [Int.sub_add_cancel])
  unfold ofQuotient
  dsimp only
  rw [if_neg (Nat.ne_of_gt someTop), chosen]
  split
  · -- A mantissa that was rounded up to its bound is halved, and the number is the same.
    rename_i full
    have inside : ¬greatestExponent < q.log2 - 52 + 1 := by
      simp only [greatestExponent]
      omega
    rw [if_neg inside]
    refine ⟨leastFullMantissa, q.log2 - 52 + 1, rfl, ?_⟩
    rw [full] at near
    rw [value_magnitude, zpow_add_one₀ (by norm_num)]
    convert near using 3
    simp only [leastFullMantissa, mantissaBound]
    push_cast
    ring
  · have inside : ¬greatestExponent < q.log2 - 52 := by
      simp only [greatestExponent]
      omega
    rw [if_neg inside]
    refine ⟨_, q.log2 - 52, rfl, ?_⟩
    rw [value_magnitude]
    exact near

end Binary64

end AgentRuns
