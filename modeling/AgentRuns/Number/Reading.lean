import AgentRuns.Number.Binary64
import AgentRuns.Text.Case
import AgentRuns.Text.Integer

/-!
# Numbers in the text of documents

A document may write a number as a text. Such a text has ASCII digits only and
may have white space around it; the information separators are no white space
here. Digits may be grouped by low lines, each of them alone.

An integer begins with a digit or with a sign and a digit. Zeros may stand before
its number, with any low lines among them, and a fraction of zeros behind it. A
minus sign may also stand between the zeros and the number, unless a minus sign
stands in front. An integer of more than `maxDigits` digits is not read.
-/

namespace AgentRuns.Text

/-- Whether the character may surround a number. -/
def isWhiteSpace (c : CodePoint) : Bool := isBlank c && !(0x1C ≤ c.toNat && c.toNat ≤ 0x1F)

/-- The text without white space at either end. -/
def trim (text : Text) : Text :=
  ((text.dropWhile isWhiteSpace).reverse.dropWhile isWhiteSpace).reverse

/-- The text without its low lines, if there are any and each stands alone inside
    it. -/
def ungrouped? (text : Text) : Option Text :=
  let apart := text.splitOn (.char '_')
  if apart.length = 1 || apart.any (·.isEmpty) then none else some apart.flatten

/-- The text behind the zeros that stand before its number, which may be a zero
    itself. Nothing but digits may stand before the zeros. -/
def behindZeros? (text : Text) : Option Text :=
  match text with
  | .char '0' :: rest =>
    let (zeros, number) := rest.span (fun c => c == .char '0' || c == .char '_')
    match number with
    | [] | .char '.' :: _ =>
      if zeros.getLast? == some (.char '_') then none else some ('0' :: number)
    | c :: _ => if c == '-' || c.within '1' '9' then some number else none
  | c :: _ => if c.within '1' '9' then some text else none
  | [] => none

/-- The text without a fraction of zeros. -/
def withoutFraction (text : Text) : Text :=
  let (whole, fraction) := text.span (· != .char '.')
  match fraction with
  | .char '.' :: .char '0' :: zeros => if zeros.all (· == .char '0') then whole else text
  | _ => text

/-- The integer that digits write behind an optional minus sign. No integer but zero
    itself begins with a zero. -/
def plainInt? (text : Text) : Option Int :=
  let digits := (text.after? "-").getD text
  let padded := 1 < digits.length && digits.head? == some (.char '0')
  if digits.isEmpty || !digits.all isPlainDigit || padded || maxDigits < digits.length then
    none
  else
    let magnitude : Int := plainValue digits
    some (if text.startsWith "-" then -magnitude else magnitude)

/-- The integer that a document's text writes. -/
def documentInt? (text : Text) : Option Int := do
  let (negative, body) := signed (trim text)
  let whole := withoutFraction (← behindZeros? body)
  let number : Text := if negative then '-' :: whole else whole
  plainInt? ((ungrouped? number).getD number)

/-- Whether the text begins with the digits of an integer that is too long. A minus
    sign may stand before them, a zero may not. -/
def opensTooLong (text : Text) : Bool :=
  let digits := ((text.after? "-").getD text).takeWhile isPlainDigit
  digits.head? != some (.char '0') && maxDigits < digits.length

/-- The exponent behind an exponent mark, zero if nothing follows. -/
def documentExponent? (text : Text) : Option Int :=
  match text with
  | [] => some 0
  | mark :: rest =>
    let (negative, part) := signed rest
    if (mark == 'e' || mark == 'E') && !part.isEmpty && part.all isPlainDigit then
      let magnitude : Int := plainValue part
      some (if negative then -magnitude else magnitude)
    else none

/-- A number without its sign: digits with a point among or around them, or the
    word for an infinity or for what is no number. -/
def documentMagnitude? (negative : Bool) (text : Text) : Option Binary64 :=
  let word := lower text
  if word == "inf" || word == "infinity" then some (.infinite negative)
  else if word == "nan" then some .nan
  else do
    let (whole, rest) := text.span isPlainDigit
    let (fraction, rest) :=
      match rest with
      | .char '.' :: rest => rest.span isPlainDigit
      | _ => ([], rest)
    if whole.isEmpty && fraction.isEmpty then none
    else
      let exponent ← documentExponent? rest
      let digits := plainValue (whole ++ fraction)
      return Binary64.ofDecimal negative digits (exponent - fraction.length)

/-- The number that a document's text writes without groups. -/
def plainNumber? (text : Text) : Option Binary64 :=
  let (negative, body) := signed text
  documentMagnitude? negative body

/-- The number that a document's text writes. -/
def documentNumber? (text : Text) : Option Binary64 :=
  (plainNumber? (trim text)).or ((ungrouped? text).bind plainNumber?)

end AgentRuns.Text
