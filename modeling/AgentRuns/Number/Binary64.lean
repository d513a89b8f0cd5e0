import AgentRuns.Number.Rounding

/-!
# Numbers with a binary exponent

A `Binary64` is a number of the standard's 64-bit binary format, held as a sign,
a mantissa below 2⁵³ and an exponent of at least −1074; the mantissa is at least
2⁵² wherever the exponent is greater. Zero keeps its sign.

Every operation computes the exact quotient first and rounds it once, to the
nearest such number and to the even mantissa of two equally near. What lies
beyond the greatest finite number becomes infinite.
-/

namespace AgentRuns

/-- A number of the 64-bit binary format: `±mantissa · 2^exponent`, an infinity,
    or no number at all. -/
inductive Binary64
  | finite (negative : Bool) (mantissa : Nat) (exponent : Int)
  | infinite (negative : Bool)
  | nan
  deriving DecidableEq

namespace Binary64

/-- The least exponent, that of zero and of the numbers nearest to it. -/
def leastExponent : Int := -1074

/-- The greatest exponent of a finite number. -/
def greatestExponent : Int := 971

/-- The bound of every mantissa, 2⁵³. -/
def mantissaBound : Nat := 0x20000000000000

/-- The least mantissa wherever the exponent is not the least one, 2⁵². -/
def leastFullMantissa : Nat := 0x10000000000000

/-- The positive zero. -/
def zero : Binary64 := .finite false 0 leastExponent

/-- The number nearest to a quotient, with the given sign. -/
def ofQuotient (negative : Bool) (q : Quotient) : Binary64 :=
  if q.top = 0 then .finite negative 0 leastExponent
  else
    let exponent := max (q.log2 - 52) leastExponent
    let mantissa := (q.scale 2 (-exponent)).round
    let (mantissa, exponent) :=
      if mantissa = mantissaBound then (leastFullMantissa, exponent + 1)
      else (mantissa, exponent)
    if greatestExponent < exponent then .infinite negative
    else .finite negative mantissa exponent

/-- The number nearest to an integer. -/
def ofInt (number : Int) : Binary64 := ofQuotient (number < 0) ⟨number.natAbs, 1⟩

/-- The number nearest to `digits · 10^exponent`. Exponents that decide the
    outcome by themselves are not expanded. -/
def ofDecimal (negative : Bool) (digits : Nat) (exponent : Int) : Binary64 :=
  let magnitude := (Text.ofNat digits).length + exponent
  if digits = 0 || magnitude < -330 then .finite negative 0 leastExponent
  else if 330 < magnitude then .infinite negative
  else ofQuotient negative (Quotient.scale 10 exponent ⟨digits, 1⟩)

/-- The magnitude of a finite number, exactly. -/
def magnitude (mantissa : Nat) (exponent : Int) : Quotient :=
  Quotient.scale 2 exponent ⟨mantissa, 1⟩

/-- The product with a positive count. -/
def times (factor : Nat) : Binary64 → Binary64
  | .finite negative mantissa exponent =>
    let q := magnitude mantissa exponent
    ofQuotient negative ⟨q.top * factor, q.bottom⟩
  | other => other

/-- Whether the number is a zero of either sign. -/
def isZero : Binary64 → Bool
  | .finite _ 0 _ => true
  | _ => false

/-- Whether the number is greater than zero. -/
def isPositive : Binary64 → Bool
  | .finite false mantissa _ => mantissa != 0
  | .infinite false => true
  | _ => false

/-- The nearest integer of a finite number, the even one of two equally near. -/
def round? : Binary64 → Option Int
  | .finite negative mantissa exponent =>
    let nearest : Int := (magnitude mantissa exponent).round
    some (if negative then -nearest else nearest)
  | _ => none

/-- The integer that a finite number becomes when its fraction is dropped. -/
def truncate? : Binary64 → Option Int
  | .finite negative mantissa exponent =>
    let whole : Int := (magnitude mantissa exponent).floor
    some (if negative then -whole else whole)
  | _ => none

/-- Whether a number has a fraction. Infinities and what is no number have none. -/
def hasFraction : Binary64 → Bool
  | .finite _ mantissa exponent =>
    let q := magnitude mantissa exponent
    q.top % q.bottom != 0
  | _ => false

end Binary64

end AgentRuns
