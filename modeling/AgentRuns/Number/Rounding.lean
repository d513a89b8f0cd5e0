import AgentRuns.Text.Basic

/-!
# Exact quotients and their rounding

A non-negative quotient is a pair of counts, its divisor positive. Scaling by a
power of a base keeps it exact; rounding takes the nearest whole number, and the
even one of two that are equally near.
-/

namespace AgentRuns

/-- A non-negative quotient `top / bottom`. -/
structure Quotient where
  top : Nat
  bottom : Nat

namespace Quotient

/-- The quotient multiplied by a power of `base`, the exponent of any sign. -/
def scale (base : Nat) (exponent : Int) (q : Quotient) : Quotient :=
  ⟨q.top * base.pow exponent.toNat, q.bottom * base.pow (-exponent).toNat⟩

/-- The quotient plus one half. -/
def addHalf (q : Quotient) : Quotient := ⟨2 * q.top + q.bottom, 2 * q.bottom⟩

/-- The greatest whole number that is not above the quotient. -/
def floor (q : Quotient) : Nat := q.top / q.bottom

/-- The nearest whole number, the even one of two equally near. -/
def round (q : Quotient) : Nat :=
  let remainder := q.top % q.bottom
  if 2 * remainder < q.bottom then q.floor
  else if q.bottom < 2 * remainder then q.floor + 1
  else q.floor + q.floor % 2

/-- The exponent of the greatest power of two that is not above the quotient. -/
def log2 (q : Quotient) : Int :=
  let estimate : Int := q.top.log2 - q.bottom.log2
  let rest := q.scale 2 (-estimate)
  if rest.top < rest.bottom then estimate - 1 else estimate

end Quotient

end AgentRuns
