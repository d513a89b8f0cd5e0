import AgentRuns.Text.Utf8

/-!
# Line breaks of files

Files end their lines with a line feed, a carriage return, or both in this
order. A text read from a file has line feeds only.
-/

namespace AgentRuns

/-- The text with every kind of line break written as a line feed. -/
def Text.unifyBreaks : Text → Text
  | .char '\r' :: .char '\n' :: rest => '\n' :: unifyBreaks rest
  | .char '\r' :: rest => '\n' :: unifyBreaks rest
  | c :: rest => c :: unifyBreaks rest
  | [] => []

/-- A file's text, with replacement characters where it is damaged. -/
def Bytes.textLossy (bytes : Bytes) : Text := (Utf8.decodeLossy bytes).unifyBreaks

/-- A file's text, if nothing in it is damaged. -/
def Bytes.text? (bytes : Bytes) : Option Text := (Utf8.decode? bytes).map Text.unifyBreaks

end AgentRuns
