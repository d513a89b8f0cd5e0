import AgentRuns.Number.Binary64

/-!
# The shortest text of a number

A number is written with the fewest digits that read back as it. Around every
finite number lies an interval of reals that round to it, its ends included
exactly for an even mantissa. On the coarsest decimal grid that has a point in
the interval, one of the two grid points next to the number is such a point, and
the nearer of the two is the number's shortest decimal.

The layout is fixed: positional from 10⁻⁴ up to 10¹⁶ exclusive and always with a
fraction, otherwise one digit before the point and an exponent with a sign and
at least two digits.
-/

namespace AgentRuns

/-- A decimal `digits · 10^exponent`. -/
structure Decimal where
  digits : Nat
  exponent : Int

namespace Binary64

/-- On the grid of multiples of `10^exponent`, the point nearest to a positive
    number that still reads back as it. Four times the mantissa counts quarters
    of a unit, so the ends of the interval are whole. -/
def readsBackOn? (mantissa : Nat) (binaryExponent exponent : Int) : Option Nat :=
  let below :=
    if mantissa = leastFullMantissa && leastExponent < binaryExponent then 1 else 2
  let unit := (Quotient.scale 2 (binaryExponent - 2) ⟨1, 1⟩).scale 10 (-exponent)
  let value := 4 * mantissa * unit.top
  let least := (4 * mantissa - below) * unit.top
  let greatest := (4 * mantissa + 2) * unit.top
  let readsBack (point : Nat) : Bool :=
    let position := point * unit.bottom
    if mantissa % 2 = 0 then least ≤ position && position ≤ greatest
    else least < position && position < greatest
  let nearest := (Quotient.mk value unit.bottom).round
  let floor := value / unit.bottom
  if readsBack nearest then some nearest
  else if readsBack floor then some floor
  else if readsBack (floor + 1) then some (floor + 1)
  else none

/-- The shortest decimal that reads back as a positive number, searched from a
    grid coarser than the number down. -/
def shortest (mantissa : Nat) (exponent : Int) : Decimal :=
  let coarsest := (mantissa.log2 + exponent + 1) * 30103 / 100000 + 1
  let found := (List.range 24).findSome? fun (step : Nat) =>
    let grid : Int := coarsest - step
    (readsBackOn? mantissa exponent grid).map fun digits => Decimal.mk digits grid
  let exact := mantissa * Nat.pow 2 exponent.toNat * Nat.pow 5 (-exponent).toNat
  found.getD ⟨exact, min exponent 0⟩

/-- An exponent with its sign and at least two digits. -/
def exponentText (exponent : Int) : Text :=
  let digits := Text.ofNat exponent.natAbs
  (if exponent < 0 then '-' else '+') :: digits.leftpad 2 '0'

/-- The text of a decimal in the fixed layout. -/
def decimalText (decimal : Decimal) : Text :=
  let digits := Text.ofNat decimal.digits
  let point : Int := digits.length + decimal.exponent
  if -4 < point && point ≤ 16 then
    if point ≤ 0 then
      "0." ++ List.replicate (-point).toNat (CodePoint.char '0') ++ digits
    else
      let whole := digits.take point.toNat
      let fraction := digits.drop point.toNat
      whole ++ List.replicate decimal.exponent.toNat (CodePoint.char '0') ++ "." ++
        Text.orElse fraction "0"
  else
    let fraction := digits.drop 1
    digits.take 1 ++ (if fraction.isEmpty then [] else '.' :: fraction : Text) ++
      "e" ++ exponentText (point - 1)

/-- The number's shortest text. -/
def text : Binary64 → Text
  | .finite negative mantissa exponent =>
    let unsigned : Text :=
      if mantissa = 0 then "0.0" else decimalText (shortest mantissa exponent)
    if negative then '-' :: unsigned else unsigned
  | .infinite negative => if negative then "-inf" else "inf"
  | .nan => "nan"

/-- A count of tenths as text with one decimal. -/
def tenthsText (tenths : Nat) : Text :=
  Text.ofNat (tenths / 10) ++ "." ++ Text.ofNat (tenths % 10)

/-- The number rounded to one decimal; a negative number keeps its sign even
    where it rounds to zero. -/
def oneDecimal : Binary64 → Text
  | .finite negative mantissa exponent =>
    let q := magnitude mantissa exponent
    let unsigned := tenthsText (Quotient.mk (10 * q.top) q.bottom).round
    if negative then '-' :: unsigned else unsigned
  | other => other.text

end Binary64

end AgentRuns
