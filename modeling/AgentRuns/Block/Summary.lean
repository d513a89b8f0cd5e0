import AgentRuns.Block.Payload
import AgentRuns.Json.Display

/-!
# Summaries of results

A search result is summed up by its number of entries, its mode and its token
count, by a preview line for each of the first entries and by a count of the
others. A stored memory is summed up by whether it was stored. A payload of any
other shape has no summary, which is the empty text.

Scores are shown in percent. The score of a decoded payload may be no number, or
infinite, or too long to be written, and then there is no summary to give. Neither is
there one of a payload that nests too deeply to be decoded. These are the four errors.
-/

namespace AgentRuns

/-- Why a block cannot be summed up: over a score of its payload, or because the payload
    nests too deeply. -/
inductive SummaryError
  | scoreNotANumber
  | scoreInfinite
  | numberTooLong
  | tooDeep (bracket : Json.Bracket)
  deriving DecidableEq

/-- The error in words. -/
def SummaryError.message : SummaryError → Text
  | .scoreNotANumber => "cannot convert float NaN to integer"
  | .scoreInfinite => "cannot convert float infinity to integer"
  | .numberTooLong => tooManyDigits
  | .tooDeep bracket => bracket.complaint

namespace Summary

/-- The most entries that a summary previews. -/
def maxPreviews : Nat := 3

/-- The most characters of an entry's content that a summary shows. -/
def snippetLength : Nat := 150

/-- A count with its noun. -/
def counted (count : Nat) (noun : Text) : Text :=
  Text.ofNat count ++ " " ++ noun ++ (if count = 1 then [] else "s" : Text)

/-- A value on one line: its words with one blank between them, abridged. -/
def snippet (value : Json) : Text :=
  Text.abridge snippetLength (Text.join " " (Text.words value.shown))

/-- The digits of an integer that is not too long. -/
def digits (number : Int) : Except SummaryError Text :=
  match Text.ofInt? number with
  | some text => .ok text
  | none => .error .numberTooLong

/-- A score in whole percent. Nothing but a number is a score. -/
def percent? : Json → Option (Except SummaryError Int)
  | .int score => some (.ok (score * 100))
  | .float score =>
    some <| match score.times 100 with
      | .nan => .error .scoreNotANumber
      | .infinite _ => .error .scoreInfinite
      | scaled => .ok (scaled.round?.getD 0)
  | _ => none

/-- The preview line of an entry. -/
def preview (entry : Json) : Except SummaryError Text :=
  match entry with
  | .object _ => do
    let content := snippet ((entry.field? "content").getD .null)
    match (entry.field? "score").bind percent? with
    | some score => return "  " ++ (← digits (← score)) ++ "% " ++ content
    | none => return "  " ++ content
  | _ => return "  " ++ snippet entry

/-- The mode of a search, if it is a text that is not blank. -/
def mode? (payload : Json) : Option Text :=
  match payload.field? "mode" with
  | some (.string mode) => Text.present? (Text.strip mode)
  | _ => none

/-- The token count of a search: an integer under the first of two keys that is
    there. -/
def tokens? (payload : Json) : Option Int :=
  match (payload.field? "tokens_used").or (payload.field? "token_count") with
  | some (.int count) => some count
  | _ => none

/-- The first line of a search's summary. -/
def headline (payload : Json) (count : Nat) : Except SummaryError Text := do
  let mode : Text := match mode? payload with
    | some mode => " (mode: " ++ mode ++ ")"
    | none => []
  let tokens : Text ← match tokens? payload with
    | some tokens => pure (" · " ++ (← digits tokens) ++ " tokens")
    | none => pure []
  return counted count "result" ++ mode ++ tokens

/-- The summary of a search's entries. -/
def ofEntries (payload : Json) (entries : List Json) : Except SummaryError Text := do
  let first ← headline payload entries.length
  let previews ← (entries.take maxPreviews).mapM preview
  let others : List Line :=
    if maxPreviews < entries.length then
      ["  ... and " ++ Text.ofNat (entries.length - maxPreviews) ++ " more"]
    else []
  return Text.unlines (first :: previews ++ others)

/-- The summary of a decoded payload. -/
def ofPayload (payload : Json) : Except SummaryError Text :=
  match payload.field? "results", payload.field? "success" with
  | some (.list entries), _ => ofEntries payload entries
  | _, some (.bool stored) => return if stored then "stored" else "failed"
  | _, _ => return []

/-- The summary of a block; a block without a payload that decodes has none. -/
def ofBlock [NestingLimits] (block : Block) : Except SummaryError Text :=
  match Block.payload block.text with
  | .ok (some payload) => ofPayload payload
  | .ok none => .ok []
  | .error bracket => .error (.tooDeep bracket)

end Summary

end AgentRuns
