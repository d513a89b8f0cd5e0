import AgentRuns.Text.Basic

/-!
# How deep values may nest

A reader follows a list or an object with one more open call, and the calls that may be
open at a time are limited. How many of them are left for the nesting of a text depends on
what else is open while the text is read, so the numbers come from outside: one for the
payloads of blocks, and one for the storage document.

Where a bracket would open one level too many the reading ends. That is a failure of its
own. It says nothing about the text, which may write a value all the same.
-/

namespace AgentRuns

/-- The brackets that open a level: that of a list, and that of an object. -/
inductive Json.Bracket
  | list
  | object
  deriving DecidableEq

/-- The complaint about a bracket that opens a level too many. -/
def Json.Bracket.complaint : Json.Bracket → Text
  | .list => "maximum recursion depth exceeded while decoding a JSON array from a unicode string"
  | .object => "maximum recursion depth exceeded while decoding a JSON object from a unicode string"

/-- The levels that may be open in what is read. The documents that a store writes have
    four: the document, its list of runs, a run, and a list or an object of that. To write
    one takes as many calls as to read it, so at least four are left wherever a store works. -/
class NestingLimits where
  payload : Nat
  document : Nat
  four_le_document : 4 ≤ document

/-- The limits where a thousand calls may be open and fifteen of them are taken before a
    text is read. -/
instance NestingLimits.ofThousandCalls : NestingLimits where
  payload := 985
  document := 985
  four_le_document := by decide

end AgentRuns
