import AgentRuns.Run.Basic
import AgentRuns.Text.Blank
import AgentRuns.Text.Case
import AgentRuns.Text.Digit

/-!
# Identifiers as people write them

People name a run by pasting a link, a mention or the start of its id. The key
to look for is the leftmost full id in what they wrote, else the leftmost run of
six to thirty-two hexadecimal digits, else the text itself without marks of
quoting and bracketing. Keys are in small letters.
-/

namespace AgentRuns.Identifier

/-- Whether the character is a hexadecimal digit. -/
def isHex (c : CodePoint) : Bool := (Text.hexDigit? c).isSome

/-- Exactly `count` hexadecimal digits at the start of the text, and what follows
    them. -/
def hexDigits? (count : Nat) (text : Text) : Option (Text × Text) :=
  let part := text.take count
  if part.length = count && part.all isHex then some (part, text.drop count) else none

/-- A hyphen and exactly `count` hexadecimal digits at the start of the text, and
    what follows them. -/
def hyphenated? (count : Nat) (text : Text) : Option (Text × Text) := do
  let (part, rest) ← hexDigits? count (← text.after? "-")
  return ('-' :: part, rest)

/-- A full id at the start of the text: five groups of hexadecimal digits with
    hyphens between them. -/
def fullId? (text : Text) : Option Text := do
  let (first, rest) ← hexDigits? 8 text
  let (second, rest) ← hyphenated? 4 rest
  let (third, rest) ← hyphenated? 4 rest
  let (fourth, rest) ← hyphenated? 4 rest
  let (fifth, _) ← hyphenated? 12 rest
  return first ++ second ++ third ++ fourth ++ fifth

/-- The start of an id at the start of the text: at least six hexadecimal digits
    and no more than thirty-two of them. -/
def partialId? (text : Text) : Option Text :=
  let part := (text.take 32).takeWhile isHex
  if 6 ≤ part.length then some part else none

/-- What `here?` finds at the leftmost place where it finds anything. -/
def leftmost? (here? : Text → Option Text) : Text → Option Text
  | [] => here? []
  | c :: rest => (here? (c :: rest)).or (leftmost? here? rest)

/-- Marks of quoting and bracketing. -/
def isMark (c : CodePoint) : Bool := ("\x60<>()[]\x7b\x7d" : Text).contains c

/-- The key to look for. -/
def key (written : Text) : Text :=
  let trimmed := Text.strip written
  match (leftmost? fullId? trimmed).or (leftmost? partialId? trimmed) with
  | some id => Text.lower id
  | none => Text.lower (trimmed.filter (!isMark ·))

/-- The first eight characters of an id, which is how runs are shown. -/
def short (id : Text) : Text := id.take 8

end AgentRuns.Identifier
