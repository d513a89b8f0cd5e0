import AgentRuns.Json.Reader
import AgentRuns.Block.Basic

/-!
# The payload of a block

A block carries its payload as a quoted text field whose content is an object.
The payload begins at the leftmost `text: "` with an opening brace behind the
quote and runs to the first closing brace that has a quote behind it; it may
span lines. Inside it six characters are escaped by a backslash; a backslash
before any other character stands for itself.

A block may have no payload, or one that does not decode. A payload that nests deeper
than its reader can follow is neither: it ends the reading of the block.
-/

namespace AgentRuns.Block

/-- The text up to its first closing brace that has a quote behind it. -/
def untilClosed? : Text → Option Text
  | [] => none
  | .char '}' :: .char '"' :: _ => some ['}']
  | c :: rest => (untilClosed? rest).map (c :: ·)

/-- The object in quotes of a text field at the start of the text. -/
def payloadHere? (text : Text) : Option Text := do
  let quoted ← Text.after? (Text.stripStart (← text.after? "text:")) "\"\x7b"
  return '{' :: (← untilClosed? quoted)

/-- The leftmost object in quotes of a text field, still escaped. -/
def escapedPayload? : Text → Option Text
  | [] => none
  | c :: rest => (payloadHere? (c :: rest)).or (escapedPayload? rest)

/-- What an escape stands for; an unknown one stands for itself. -/
def unescaped : CodePoint → Text
  | .char 'n' => ['\n']
  | .char 't' => ['\t']
  | .char 'r' => ['\r']
  | .char '"' => ['"']
  | .char '\'' => ['\'']
  | .char '\\' => ['\\']
  | c => ['\\', c]

/-- The text with its escapes resolved from left to right. A backslash at the
    very end stands for itself. -/
def unescape : Text → Text
  | [] => []
  | .char '\\' :: c :: rest => unescaped c ++ unescape rest
  | c :: rest => c :: unescape rest

/-- The decoded payload of a block's text, none if there is no payload that decodes. -/
def payload [NestingLimits] (text : Text) : Except Json.Bracket (Option Json) :=
  match escapedPayload? text with
  | some escaped => Json.orNone (Json.readLenient NestingLimits.payload (unescape escaped))
  | none => .ok none

end AgentRuns.Block
