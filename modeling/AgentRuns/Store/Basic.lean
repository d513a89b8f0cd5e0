import AgentRuns.Run.Identifier
import AgentRuns.Store.Document

/-!
# Changing the store

Every change loads the document, changes the list of runs and writes the whole
document again. A change that fails writes nothing: it yields an error and no
content. Changes that find nothing to do write nothing either. A document that nests too
deeply to be loaded fails every change but setting up, which does not load it.

New ids and times come from outside. The clock is read once for a run that is created
and once for each run that is given up.
-/

namespace AgentRuns

/-- Why a change of the store fails. -/
inductive StoreError
  | unknownRun (id : Text)
  | invalid (issues : List Issue)
  | numberTooLong
  | tooDeep (bracket : Json.Bracket)

/-- The error in words; issues are reported one by one instead. -/
def StoreError.message : StoreError → Text
  | .unknownRun id => "Run not found: " ++ id
  | .invalid _ => []
  | .numberTooLong => tooManyDigits
  | .tooDeep bracket => bracket.complaint

namespace Store

/-- What a successful change yields, and the content that it writes to the storage
    file, none if the file stays as it is. -/
structure Change (α : Type) where
  result : α
  written : Option Bytes

/-- The document behind a change of the one before. -/
def Change.document {α : Type} (change : Change α) (before : Document) : Document :=
  change.written.or before

/-- The outcome of a change. -/
abbrev Outcome (α : Type) := Except StoreError (Change α)

/-- The runs that a change or a question begins with. -/
def load [NestingLimits] (document : Document) : Except StoreError (List Run) :=
  document.load.mapError .tooDeep

/-- Whether the numbers of a run can be written. -/
def writable (run : Run) : Bool := (Text.ofInt? run.chainIndex).isSome

/-- The document that is written for a list of runs, if all their numbers can be
    written. -/
def save (runs : List Run) : Except StoreError Document :=
  if runs.all writable then .ok (Document.ofRuns runs) else .error .numberTooLong

/-- A store that is set up: without runs, unless there is a document. -/
def setUp (document : Document) : Change Unit :=
  ⟨(), if document.isSome then none else Document.ofRuns []⟩

/-- The facts of a request that create a run. -/
structure Creation where
  request : NewRun
  branchPrefix : Option Text := none
  existingBranch : Option Text := none
  id : Text
  now : Text

/-- The run that a creation appends to the runs that are there. A follow-up of a
    stored run joins its chain. -/
def Creation.run (creation : Creation) (defaultPrefix : Text) (runs : List Run) : Run :=
  let request := creation.request
  let branchPrefix := (Text.present? creation.branchPrefix).getD defaultPrefix
  let ownBranch := branchPrefix ++ "/" ++ Identifier.short creation.id
  let parent := (Text.present? request.parentRunId).bind fun id => runs.find? (·.id == id)
  { id := creation.id
    repoSlug := request.repoSlug
    task := request.task
    baseBranch := request.baseBranch
    branchName := (Text.present? creation.existingBranch).getD ownBranch
    requestedBy := request.requestedBy
    channelId := request.channelId
    threadTs := request.threadTs
    createdAt := creation.now
    parentRunId := request.parentRunId
    rootRunId := parent.map fun parent => (Text.present? parent.rootRunId).getD parent.id
    chainIndex := (parent.map fun parent => parent.chainIndex + 1).getD 0
    parentBranchName := creation.existingBranch
    feedbackNote := request.feedbackNote }

/-- A further run. Its place in its chain must be a number that can be written. -/
def create [NestingLimits] (defaultPrefix : Text) (creation : Creation) (document : Document) :
    Outcome Run :=
  (load document).bind fun runs =>
    let run := creation.run defaultPrefix runs
    (save (runs ++ [run])).map fun written => ⟨run, written⟩

/-- A run with some of its fields given anew, if all of them are valid. -/
def amend (changes : Table Json) (run : Run) : Except StoreError Run :=
  match Run.checkFields (run.fields.overlay changes) with
  | .valid amended => .ok amended
  | .invalid issues => .error (.invalid issues)

/-- The list with its first run of an id amended, and that run. -/
def amendFirst (id : Text) (changes : Table Json) :
    List Run → Except StoreError (Run × List Run)
  | [] => .error (.unknownRun id)
  | run :: rest =>
    if run.id = id then
      (amend changes run).map fun amended => (amended, amended :: rest)
    else
      (amendFirst id changes rest).map fun (amended, others) => (amended, run :: others)

/-- A run's fields given anew. All of them are checked before any is written. -/
def update [NestingLimits] (id : Text) (changes : Table Json) (document : Document) :
    Outcome Run :=
  (load document).bind fun runs =>
    (amendFirst id changes runs).bind fun (amended, runs) =>
      (save runs).map fun written => ⟨amended, written⟩

/-- A run's feedback given anew. -/
def saveFeedback [NestingLimits] (id : Text) (feedback : Feedback) (document : Document) :
    Outcome Run :=
  update id [("feedback", feedback.toJson)] document

/-- The list with its unfinished runs changed, each as its place in the list asks for. -/
def withUnfinished (change : Nat → Run → Run) (runs : List Run) : List Run :=
  runs.zipIdx.map fun (run, place) => if run.status.inProgress then change place run else run

/-- The unfinished runs of the list behind their changes. -/
def changedRuns (change : Nat → Run → Run) (runs : List Run) : List Run :=
  (runs.zipIdx.filter (·.1.status.inProgress)).map fun (run, place) => change place run

/-- Every unfinished run changed. Nothing is written if there is none. -/
def changeUnfinished (change : Nat → Run → Run) (runs : List Run) : Change (List Run) :=
  let changed := changedRuns change runs
  ⟨changed, if changed.isEmpty then none else Document.ofRuns (withUnfinished change runs)⟩

/-- An unfinished run that is given up at a time. -/
def failed (reason now : Text) (run : Run) : Run :=
  { run with
    status := .failed
    phase := some .failed
    finishedAt := some now
    error := some reason }

/-- What giving up makes of an unfinished run, by its place in the list. The clock shows a
    time for each place, that of the moment at which the run there is given up. -/
abbrev givenUp (reason : Text) (clock : Nat → Text) : Nat → Run → Run :=
  fun place => failed reason (clock place)

/-- An unfinished run that is to start anew. -/
def requeued (reason : Text) (run : Run) : Run :=
  { run with
    status := .queued
    phase := some .queued
    startedAt := none
    finishedAt := none
    error := some reason }

/-- Every unfinished run given up, and their number. -/
def failUnfinished [NestingLimits] (reason : Text) (clock : Nat → Text) (document : Document) :
    Outcome Nat :=
  (load document).map fun runs =>
    let change := changeUnfinished (givenUp reason clock) runs
    ⟨change.result.length, change.written⟩

/-- Every unfinished run put back into the queue, and these runs. -/
def requeueUnfinished [NestingLimits] (reason : Text) (document : Document) :
    Outcome (List Run) :=
  (load document).map (changeUnfinished fun _ => requeued reason)

end Store

end AgentRuns
