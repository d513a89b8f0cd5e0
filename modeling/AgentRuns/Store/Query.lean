import AgentRuns.File.Tree
import AgentRuns.Settings
import AgentRuns.Store.Basic

/-!
# Asking the store

Reads look at the runs of the document and change nothing. Lists are newest
first; chains of follow-ups are oldest first by the time of their creation, runs
of one time in stored order.

A run is found by its exact id or by the start of its id, if no other run's id
starts like that.
-/

namespace AgentRuns.Store

/-- The most runs that one list holds. -/
def maxListed : Nat := 500

/-- The number of runs that a list of a given limit holds at most. -/
def bounded (limit : Int) : Nat := (max 1 (min limit maxListed)).toNat

/-- The run of an id. -/
def get? (runs : List Run) (id : Text) : Option Run := runs.find? (·.id == id)

/-- The newest runs, newest first. -/
def newest (runs : List Run) (limit : Int) : List Run := runs.reverse.take (bounded limit)

/-- The newest run of a thread. -/
def latestOfThread? (runs : List Run) (channel thread : Text) : Option Run :=
  runs.reverse.find? fun run => run.channelId == channel && run.threadTs == thread

/-- The newest run of a channel. -/
def latestOfChannel? (runs : List Run) (channel : Text) : Option Run :=
  runs.reverse.find? fun run => run.channelId == channel

/-- The runs of a thread, oldest first. -/
def chain (runs : List Run) (channel thread : Text) : List Run :=
  (runs.filter fun run => run.channelId == channel && run.threadTs == thread).mergeSort
    fun first second => Text.le first.createdAt second.createdAt

/-- The run that a key names: by its id, or as the only one whose id starts with
    the key. -/
def lookUp? (runs : List Run) (key : Text) : Option Run :=
  match get? runs key with
  | some run => some run
  | none =>
    match runs.filter (·.id.startsWith key) with
    | [run] => some run
    | _ => none

/-- The run that someone named in writing. -/
def find? (runs : List Run) (written : Text) : Option Run :=
  let key := Identifier.key written
  if key.isEmpty then none else lookUp? runs key

/-- The run of a document that someone named in writing. The document is not loaded where
    nothing is left of the name to look for. -/
def search [NestingLimits] (written : Text) (document : Document) :
    Except StoreError (Option Run) :=
  if (Identifier.key written).isEmpty then .ok none
  else (load document).map (find? · written)

/-- The path of a run's log: the one that is recorded, or a file in the run's
    folder below the work root. -/
def logPath (here : Place) (workRoot : Path) (run : Run) : Except PathError Path :=
  match Text.present? run.logsPath with
  | some path => .ok (Path.ofText path)
  | none =>
    FileTree.resolve here
      ((workRoot.join (Path.ofText run.id)).join (Path.ofText Settings.logName))

end AgentRuns.Store
