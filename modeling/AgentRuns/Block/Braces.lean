import AgentRuns.Text.Basic

/-!
# Braces outside quotes

A result block ends where its braces balance. String values may hold braces of
their own, so only braces outside double quotes count. A quote is escaped, and
then no quote, exactly if an odd run of backslashes stands before it; backslashes
pair off wherever they stand.
-/

namespace AgentRuns.Block

/-- Whether a mark is escaped by what stands before it, the nearest character
    first. -/
def isEscaped (before : Text) : Bool := (before.takeWhile (· == .char '\\')).length % 2 == 1

/-- What a character outside quotes adds to the depth. -/
def braceWeight (c : CodePoint) : Int :=
  if c == '{' then 1 else if c == '}' then -1 else 0

/-- Opening less closing braces outside quotes in the text that stands behind
    `before`, whose nearest character is first. -/
def braceDeltaFrom (before : Text) (quoted : Bool) : Text → Int
  | [] => 0
  | c :: rest =>
    if c == '"' && !isEscaped before then braceDeltaFrom (c :: before) (!quoted) rest
    else (if quoted then 0 else braceWeight c) + braceDeltaFrom (c :: before) quoted rest

/-- Opening less closing braces of a line outside its quotes. -/
def braceDelta (line : Line) : Int := braceDeltaFrom [] false line

end AgentRuns.Block
