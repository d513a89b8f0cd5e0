import AgentRuns.Json.Reader
import AgentRuns.Json.Writer
import AgentRuns.Run.Check
import AgentRuns.Text.Breaks

/-!
# The storage document

All runs are kept in one file: an object with a list of runs, oldest first. The
file may be absent, and whatever it holds may be damaged. A file that does not
decode to such an object counts as one without runs, and an entry of the list
that is no valid run is passed over. Only a file that nests deeper than its reader can
follow is not loaded at all.
-/

namespace AgentRuns

/-- The content of the storage file, none if there is no such file. -/
abbrev Document := Option Bytes

namespace Document

/-- The value that the document writes, none if there is no document that writes one. -/
def decoded [NestingLimits] (document : Document) : Except Json.Bracket (Option Json) :=
  match document.bind Bytes.text? with
  | some text => Json.orNone (Json.readStrict NestingLimits.document text)
  | none => .ok none

/-- The entries of the list of runs in a decoded value. -/
def entriesOf : Option Json → List Json
  | some json =>
    match json.field? "runs" with
    | some (.list entries) => entries
    | _ => []
  | none => []

/-- The entries of the list of runs, valid or not. -/
def entries [NestingLimits] (document : Document) : Except Json.Bracket (List Json) :=
  document.decoded.map entriesOf

/-- The runs that are loaded from the document, oldest first. -/
def load [NestingLimits] (document : Document) : Except Json.Bracket (List Run) :=
  document.entries.map (·.filterMap fun entry => (Run.check entry).value?)

/-- The runs that the document holds, oldest first. One that nests too deeply shows
    none. -/
def runs [NestingLimits] (document : Document) : List Run := document.load.toOption.getD []

/-- The value that is written for a list of runs. -/
def toJson (runs : List Run) : Json := .object [("runs", .list (runs.map Run.toJson))]

/-- The document that holds exactly these runs. -/
def ofRuns (runs : List Run) : Document :=
  some (Utf8.encode (Json.writeAscii (toJson runs)))

end Document

end AgentRuns
