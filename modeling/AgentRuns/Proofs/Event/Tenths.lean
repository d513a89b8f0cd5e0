import AgentRuns.Event.Progress
import AgentRuns.Proofs.Number.Nearness

/-!
# Measured shares

A share of the progress is a quotient in tenths of a percent, rounded to whole
tenths. The exact rule rounds a half up. The rule of the binary format rounds
three times on the way, each time by a part in 2⁵³. Up to 2³⁹ steps that is too
little to reach another tenth, unless the share lies halfway between two tenths:
there the lower tenth may come out.

So both rules are told by one law, and whatever follows from the law holds of
both: shares do not decrease, the last one is a thousand tenths, each is the
nearest tenth or one of two equally near ones, and they increase with every step
exactly if there are no more than a thousand steps.
-/

namespace AgentRuns

/-- A measure that takes every share to a nearest tenth: the two differ by half a
    tenth at most. Of two equally near tenths it may take either one. -/
def Nearest (tenths : Nat → Nat → Nat) (total : Nat) : Prop :=
  ∀ seen, 0 < seen → seen ≤ total → 2 * total * tenths seen total ≤ 2000 * seen + total ∧
    2000 * seen ≤ 2 * total * tenths seen total + total

/-- The share lies halfway between two tenths. -/
def Halfway (seen total : Nat) : Prop := 2 * total ∣ 2000 * seen + total

/-- The tenths of an exact share are one whole division, with half the divisor added before. -/
theorem exactTenths_eq (seen total : Nat) :
    exactTenths seen total = (2000 * seen + total) / (2 * total) := by
  simp only [exactTenths, Quotient.addHalf, Quotient.floor]
  congr 2
  omega

/-- The exact rule is such a measure: it takes the greater of two equally near
    tenths. -/
theorem nearest_exactTenths (total : Nat) : Nearest exactTenths total := by
  intro seen someSeen inside
  rw [exactTenths_eq]
  have split := Nat.div_add_mod (2000 * seen + total) (2 * total)
  have remainder := Nat.mod_lt (2000 * seen + total) (by omega : 0 < 2 * total)
  omega

/-- Shares do not decrease: a later one is greater, so its nearest tenth is no
    smaller. -/
theorem Nearest.mono {tenths : Nat → Nat → Nat} {total : Nat} (nearest : Nearest tenths total)
    (seen later : Nat) (someSeen : 0 < seen) (less : seen < later) (inside : later ≤ total) :
    tenths seen total ≤ tenths later total := by
  obtain ⟨most, _⟩ := nearest seen someSeen (by omega)
  obtain ⟨_, least⟩ := nearest later (by omega) inside
  by_contra greater
  have further : 2 * total * (tenths later total + 1) ≤ 2 * total * tenths seen total :=
    Nat.mul_le_mul_left _ (by omega)
  rw [Nat.mul_succ] at further
  omega

/-- A thousand steps or fewer are a tenth apart at least, and no share of a
    thousand lies halfway. -/
theorem Nearest.strict {tenths : Nat → Nat → Nat} {total : Nat} (nearest : Nearest tenths total)
    (few : total ≤ 1000) (seen later : Nat) (someSeen : 0 < seen) (less : seen < later)
    (inside : later ≤ total) : tenths seen total < tenths later total := by
  obtain ⟨most, _⟩ := nearest seen someSeen (by omega)
  obtain ⟨_, least⟩ := nearest later (by omega) inside
  by_contra notLess
  have further : 2 * total * tenths later total ≤ 2 * total * tenths seen total :=
    Nat.mul_le_mul_left _ (by omega)
  -- Both shares are half a tenth from one tenth, so there are a thousand steps.
  have thousand : total = 1000 := by omega
  subst thousand
  omega

/-- The last share is the whole. Of all tenths only the whole is near enough to it. -/
theorem Nearest.last {tenths : Nat → Nat → Nat} {total : Nat} (nearest : Nearest tenths total)
    (someStep : 0 < total) : tenths total total = 1000 := by
  obtain ⟨most, least⟩ := nearest total someStep (Nat.le_refl total)
  have atMost : 2 * tenths total total ≤ 2001 := by
    apply Nat.le_of_mul_le_mul_left _ someStep
    calc total * (2 * tenths total total) = 2 * total * tenths total total := by ring
      _ ≤ 2000 * total + total := most
      _ = total * 2001 := by ring
  have atLeast : 1999 ≤ 2 * tenths total total := by
    apply Nat.le_of_mul_le_mul_left _ someStep
    calc total * 1999 = 2000 * total - total := by omega
      _ ≤ 2 * total * tenths total total := by omega
      _ = total * (2 * tenths total total) := by ring
  omega

/-- Among more than a thousand steps two have one share: the first share is no
    less than one tenth if there are a thousand and one, and there are a thousand
    tenths. -/
theorem Nearest.few {tenths : Nat → Nat → Nat} {total : Nat} (nearest : Nearest tenths total)
    (increasing : ∀ seen, 0 < seen → seen < total → tenths seen total < tenths (seen + 1) total) :
    total ≤ 1000 := by
  by_contra many
  have climbs : ∀ steps, steps < total → tenths 1 total + steps ≤ tenths (1 + steps) total := by
    intro steps
    induction steps with
    | zero => simp
    | succ steps inductionHypothesis =>
      intro inside
      have before := inductionHypothesis (by omega)
      have next := increasing (1 + steps) (by omega) (by omega)
      rw [Nat.add_assoc] at next
      omega
  have top := climbs (total - 1) (by omega)
  rw [Nat.add_sub_cancel' (by omega), nearest.last (by omega)] at top
  have total_eq : total = 1001 := by omega
  subst total_eq
  have first := nearest 1 (by decide) (by decide)
  omega

/-! ## The rule of the binary format -/

/-- A quotient in the reach of shares is moved by a part in 2⁵³ at most. It is neither tiny
    nor huge for the format. -/
theorem ofQuotient_moderate (q : Quotient) (divides : 0 < q.bottom)
    (least : 1 / 2 ^ 40 ≤ q.value) (most : q.value < 2 ^ 11) :
    (Binary64.ofQuotient false q).Within q.value (q.value / 2 ^ 53) := by
  apply Binary64.ofQuotient_within q divides
  · intro tiny
    have small := (q.below_iff (-40) divides).mp (tiny.mono (by decide))
    rw [zpow_neg] at small
    norm_num at small least
    linarith
  · have below : q.Below 11 := (q.below_iff 11 divides).mpr (by exact_mod_cast most)
    exact below.mono (by decide)

/-- The thousandfold of a number near a share. Its own error grows a thousandfold too, and
    rounding adds one more. -/
theorem times_within (number : Binary64) (x : ℚ) (near : number.Within x (1 / 2 ^ 53))
    (least : 1 / 2 ^ 39 ≤ x) (most : x ≤ 1) :
    (number.times 1000).Within (1000 * x) (2001 / 2 ^ 53) := by
  obtain ⟨mantissa, exponent, rfl, near⟩ := near
  have divides : 0 < (Binary64.magnitude mantissa exponent).bottom :=
    Nat.mul_pos Nat.one_pos (Nat.two_pow_pos _)
  simp only [Binary64.times]
  generalize Binary64.magnitude mantissa exponent = share at near divides ⊢
  have value : (⟨share.top * 1000, share.bottom⟩ : Quotient).value = 1000 * share.value := by
    simp only [Quotient.value]
    push_cast
    ring
  rw [abs_le] at near
  obtain ⟨mantissa, exponent, rounded, moved⟩ :=
    ofQuotient_moderate ⟨share.top * 1000, share.bottom⟩ divides
      (by rw [value]; linarith) (by rw [value]; linarith)
  refine ⟨mantissa, exponent, rounded, ?_⟩
  rw [value, abs_le] at moved
  rw [abs_le]
  constructor <;> linarith

/-- A number near the thousandfold, with a half added. This is the third rounding and the last
    one. -/
theorem addHalf_within (number : Quotient) (x : ℚ) (divides : 0 < number.bottom)
    (near : |number.value - 1000 * x| ≤ 2001 / 2 ^ 53) (least : 0 ≤ x) (most : x ≤ 1) :
    (Binary64.ofQuotient false number.addHalf).Within (1000 * x + 1 / 2) (2 ^ 12 / 2 ^ 53) := by
  have value := number.value_addHalf divides
  rw [abs_le] at near
  obtain ⟨mantissa, exponent, rounded, moved⟩ :=
    ofQuotient_moderate number.addHalf (Nat.mul_pos (by decide) divides)
      (by rw [value]; linarith) (by rw [value]; linarith)
  refine ⟨mantissa, exponent, rounded, ?_⟩
  rw [value, abs_le] at moved
  rw [abs_le]
  constructor <;> linarith

/-- What is rounded three times on the way to a share stays nearer to the share
    than half a tenth is to any other one. -/
theorem roundedTenths_near (seen total : Nat) (someSeen : 0 < seen) (inside : seen ≤ total)
    (short : total ≤ 2 ^ 39) : ∃ raised : ℚ, 0 ≤ raised ∧ roundedTenths seen total = ⌊raised⌋₊ ∧
      |raised - (1000 * (seen / total) + 1 / 2)| < 1 / (2 * total) := by
  have divides : 0 < total := Nat.lt_of_lt_of_le someSeen inside
  have positive : (0 : ℚ) < total := by exact_mod_cast divides
  have least : (1 : ℚ) / 2 ^ 39 ≤ seen / total := by
    rw [div_le_div_iff₀ (by norm_num) positive]
    exact_mod_cast (by omega : 1 * total ≤ seen * 2 ^ 39)
  have most : (seen : ℚ) / total ≤ 1 := by
    rw [div_le_one positive]
    exact_mod_cast inside
  have unit : (2 : ℚ) ^ 12 / 2 ^ 53 < 1 / (2 * total) := by
    rw [div_lt_div_iff₀ (by norm_num) (by linarith)]
    exact_mod_cast (by omega : 2 ^ 12 * (2 * total) < 1 * 2 ^ 53)
  have quotient : (Binary64.ofQuotient false ⟨seen, total⟩).Within (seen / total) (1 / 2 ^ 53) := by
    apply (ofQuotient_moderate ⟨seen, total⟩ divides _ _).mono
    all_goals rw [Quotient.value]; dsimp only; linarith
  obtain ⟨mantissa, exponent, product, productNear⟩ := times_within _ _ quotient least most
  obtain ⟨raisedMantissa, raisedExponent, sum, sumNear⟩ :=
    addHalf_within (Binary64.magnitude mantissa exponent) (seen / total)
      (Nat.mul_pos Nat.one_pos (Nat.two_pow_pos _)) productNear (by positivity) most
  refine ⟨(Binary64.magnitude raisedMantissa raisedExponent).value, Quotient.value_nonneg _, ?_,
    sumNear.trans_lt unit⟩
  simp only [roundedTenths, product, sum, Binary64.truncate?, Quotient.floor_eq]
  simp

/-- A number nearer to a quotient than any other quotient by the same divisor is
    cut to the same whole number, or to the one below if the quotient is whole. -/
theorem floor_near (x : ℚ) (top bottom : Nat) (divides : 0 < bottom) (positive : 0 ≤ x)
    (near : |x - top / bottom| < 1 / bottom) :
    ⌊x⌋₊ = top / bottom ∨ bottom ∣ top ∧ ⌊x⌋₊ + 1 = top / bottom := by
  have real : (0 : ℚ) < bottom := by exact_mod_cast divides
  have split : (top : ℚ) / bottom = (top / bottom : Nat) + (top % bottom : Nat) / bottom := by
    rw [eq_comm, ← mul_left_inj' real.ne', add_mul, div_mul_cancel₀ _ real.ne',
      div_mul_cancel₀ _ real.ne']
    exact_mod_cast Nat.div_add_mod' top bottom
  rw [split, abs_lt] at near
  have atMost : ⌊x⌋₊ ≤ top / bottom := by
    apply Nat.le_of_lt_succ
    rw [Nat.floor_lt positive]
    have room : ((top % bottom : Nat) : ℚ) / bottom + 1 / bottom ≤ 1 := by
      rw [← add_div, div_le_one real]
      exact_mod_cast Nat.mod_lt top divides
    push_cast
    linarith
  by_cases whole : top % bottom = 0
  · by_cases reached : ⌊x⌋₊ = top / bottom
    · exact Or.inl reached
    · refine Or.inr ⟨Nat.dvd_of_mod_eq_zero whole, ?_⟩
      have atLeast : top / bottom - 1 ≤ ⌊x⌋₊ := by
        rw [Nat.le_floor_iff positive]
        have below : (1 : ℚ) / bottom ≤ 1 := by
          rw [div_le_one real]
          exact_mod_cast divides
        have less : ((top / bottom - 1 : Nat) : ℚ) ≤ (top / bottom : Nat) - 1 := by
          rw [Nat.cast_sub (by omega), Nat.cast_one]
        rw [whole, Nat.cast_zero, zero_div] at near
        linarith
      omega
  · have atLeast : top / bottom ≤ ⌊x⌋₊ := by
      rw [Nat.le_floor_iff positive]
      have more : (1 : ℚ) / bottom ≤ (top % bottom : Nat) / bottom := by
        apply div_le_div_of_nonneg_right _ real.le
        exact_mod_cast Nat.one_le_iff_ne_zero.mpr whole
      linarith
    exact Or.inl (Nat.le_antisymm atMost atLeast)

/-- Up to 2³⁹ steps the rule of the binary format gives the tenth of the exact rule,
    or the one below if the share lies halfway between them. -/
theorem roundedTenths_cases (seen total : Nat) (someSeen : 0 < seen) (inside : seen ≤ total)
    (short : total ≤ 2 ^ 39) : roundedTenths seen total = exactTenths seen total ∨
      Halfway seen total ∧ roundedTenths seen total + 1 = exactTenths seen total := by
  obtain ⟨raised, positive, floor, near⟩ := roundedTenths_near seen total someSeen inside short
  have divides : 0 < total := Nat.lt_of_lt_of_le someSeen inside
  have real : (total : ℚ) ≠ 0 := by exact_mod_cast Nat.ne_of_gt divides
  have share : 1000 * ((seen : ℚ) / total) + 1 / 2 =
      (2000 * seen + total : Nat) / (2 * total : Nat) := by
    push_cast
    field_simp
    ring
  rw [exactTenths_eq, floor]
  apply floor_near raised (2000 * seen + total) (2 * total) (by omega) positive
  rw [← share]
  exact_mod_cast near

/-- So it takes every share to a nearest tenth. The three roundings together are less than the
    least distance of a share from the middle of two tenths. -/
theorem nearest_roundedTenths (total : Nat) (short : total ≤ 2 ^ 39) :
    Nearest roundedTenths total := by
  intro seen someSeen inside
  have exact := nearest_exactTenths total seen someSeen inside
  rcases roundedTenths_cases seen total someSeen inside short with same | ⟨halfway, below⟩
  · rw [same]
    exact exact
  · have whole := Nat.mul_div_cancel' halfway
    rw [← exactTenths_eq, ← below, Nat.mul_succ] at whole
    omega

end AgentRuns
