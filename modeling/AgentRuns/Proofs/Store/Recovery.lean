import AgentRuns.Proofs.Store.Records
import AgentRuns.Proofs.Store.Transitions
import Mathlib.Data.List.Forall2

/-!
# Unfinished runs after a crash

After a crash the unfinished runs are given up, or they are put back into the queue.
Either way they alone are changed, in their places and in a few fields, and all other
runs are written as they were read. This holds of every content of the storage file,
and of such changes in any sequence.

Giving up leaves no run unfinished, so giving up again finds nothing to do and writes
nothing. A run that was put back is unfinished still. Putting it back again changes it
again, but for the same reason it comes to the same.

Each run is given up at a time of its own, and no law depends on how these times follow
each other. The runs that are yielded have the reason as it was given. In the file the
halves of pairs in it are joined as in all texts.

Both operations succeed on every document that loads. One that nests too deeply holds no
run for them to change, so they fail, and it stays.
-/

namespace AgentRuns

/-- The statuses of runs that are not finished. -/
def RunStatus.unfinished : List RunStatus := [.queued, .running, .validating, .pushing]

/-- A run is in progress exactly if its status is one of those that count as unfinished. There
    are six statuses to look at. -/
theorem RunStatus.inProgress_iff (status : RunStatus) :
    status.inProgress = true ↔ status ∈ unfinished := by
  cases status <;> decide

namespace Run

/-- Whether the run is not finished. -/
def Unfinished (run : Run) : Prop := run.status ∈ RunStatus.unfinished

instance (run : Run) : Decidable run.Unfinished := inferInstanceAs (Decidable (_ ∈ _))

/-- Whether a run is unfinished is told by the check that the store makes. -/
theorem unfinished_iff (run : Run) : run.Unfinished ↔ run.status.inProgress = true :=
  (RunStatus.inProgress_iff run.status).symm

/-- The keys of the fields that change when a run is given up. -/
def failedKeys : List Text := ["status", "phase", "finishedAt", "error"]

/-- The keys of the fields that change when a run is put back into the queue. -/
def requeuedKeys : List Text := ["status", "phase", "startedAt", "finishedAt", "error"]

/-- A run that became another one by changes under some keys alone, and by none if it
    was finished. -/
structure Kept (keys : List Text) (run other : Run) : Prop where
  fields : ∀ key ∉ keys, other.fields.get? key = run.fields.get? key
  finished : ¬run.Unfinished → other = run

/-- A run is kept as it is, whatever fields may change. -/
theorem Kept.refl (keys : List Text) (run : Run) : Kept keys run run :=
  ⟨fun _ _ => rfl, fun _ => rfl⟩

/-- Keeping runs goes on from one operation to the next. A finished run is finished behind the
    first of them. -/
theorem Kept.trans {keys : List Text} {run other third : Run} (first : Kept keys run other)
    (second : Kept keys other third) : Kept keys run third where
  fields key notGiven := (second.fields key notGiven).trans (first.fields key notGiven)
  finished done := by
    have same := first.finished done
    exact (second.finished (same ▸ done)).trans same

/-- A run that is kept but for some fields is kept but for more of them. -/
theorem Kept.mono {keys more : List Text} {run other : Run} (kept : Kept keys run other)
    (within : keys ⊆ more) : Kept more run other where
  fields key notGiven := kept.fields key fun given => notGiven (within given)
  finished := kept.finished

/-- The runs of two lists correspond by their places, and each is kept. -/
abbrev AllKept (keys : List Text) : List Run → List Run → Prop := List.Forall₂ (Kept keys)

/-- Keeping lists of runs goes on from one operation to the next, place by place. -/
theorem AllKept.trans {keys : List Text} {runs others third : List Run}
    (first : AllKept keys runs others) (second : AllKept keys others third) :
    AllKept keys runs third := by
  induction first generalizing third with
  | nil => exact second
  | cons kept _ inductionHypothesis =>
    cases second with
    | cons further rest => exact .cons (kept.trans further) (inductionHypothesis rest)

end Run

namespace Store

/-! ## What either change does -/

/-- A run that is given up has four fields laid over its own. -/
theorem failed_fields (reason now : Text) (run : Run) :
    (failed reason now run).fields = run.fields.overlay
      [("status", .string RunStatus.failed.name), ("phase", .string RunPhase.failed.name),
        ("finishedAt", .string now), ("error", .string reason)] := rfl

/-- A run that is put back has five fields laid over its own. The two times are taken away. -/
theorem requeued_fields (reason : Text) (run : Run) :
    (requeued reason run).fields = run.fields.overlay
      [("status", .string RunStatus.queued.name), ("phase", .string RunPhase.queued.name),
        ("startedAt", .null), ("finishedAt", .null), ("error", .string reason)] := rfl

/-- Fields of other keys are as they were. What is laid over a record concerns the given keys
    alone. -/
theorem get?_overlay_of_notMem (run : Run) (changes : Table Json) (key : Text)
    (notGiven : key ∉ changes.map Prod.fst) :
    (run.fields.overlay changes).get? key = run.fields.get? key := by
  rw [Table.get?_overlay, Table.get?_ofEntries_of_notMem changes key notGiven, Option.none_or]

/-- Giving up keeps the fields of all other keys, the ids and the links among them. -/
theorem failed_keeps (reason now : Text) (run : Run) (key : Text)
    (notGiven : key ∉ Run.failedKeys) :
    (failed reason now run).fields.get? key = run.fields.get? key := by
  rw [failed_fields]
  exact get?_overlay_of_notMem run _ key notGiven

/-- Putting back keeps the fields of all other keys, the ids and the links among them. -/
theorem requeued_keeps (reason : Text) (run : Run) (key : Text)
    (notGiven : key ∉ Run.requeuedKeys) :
    (requeued reason run).fields.get? key = run.fields.get? key := by
  rw [requeued_fields]
  exact get?_overlay_of_notMem run _ key notGiven

section

variable [NestingLimits]

/-- The document behind a change of the unfinished runs. -/
def changedDocument (change : Nat → Run → Run) (document : Document) : Document :=
  (changeUnfinished change document.runs).document document

section Changes

variable (change : Nat → Run → Run) (document : Document)
  (keepsPlace : ∀ place run, (change place run).chainIndex = run.chainIndex)
include keepsPlace

/-- Behind a change of the unfinished runs the document holds them changed, and all other
    runs as they were. -/
theorem runs_changedDocument :
    (changedDocument change document).runs =
      (withUnfinished change document.runs).map Run.joined := by
  rcases changeUnfinished_cases change document keepsPlace with ⟨finished, none⟩ | ⟨_, saved⟩
  · rw [changedDocument, Change.document, none, withUnfinished_of_finished change _ finished,
      document.runs_joined]
    rfl
  · rw [changedDocument, Change.document_of_save _ document _ saved]
    exact runs_of_save _ _ saved

/-- Each run is kept but for the fields that the change is made to. The others are read back
    as they were written, since they were read before. -/
theorem allKept_changedDocument (keys : List Text)
    (keeps : ∀ place run key, key ∉ keys →
      (change place run).fields.get? key = run.fields.get? key) :
    Run.AllKept keys document.runs (changedDocument change document).runs := by
  rw [runs_changedDocument change document keepsPlace, withUnfinished, List.map_map]
  -- The runs before the change are the first parts of the places that it goes through.
  conv in document.runs => rw [← List.zipIdx_map_fst 0 document.runs]
  rw [Run.AllKept, List.forall₂_map_left_iff, List.forall₂_map_right_iff, List.forall₂_same]
  rintro ⟨run, place⟩ member
  have joined := document.joined_of_mem_runs run (List.fst_mem_of_mem_zipIdx member)
  simp only [Function.comp_apply]
  constructor
  · intro key notGiven
    rw [Run.get?_fields_joined]
    split
    · rw [keeps place run key notGiven, ← Run.get?_fields_joined, joined]
    · rw [← Run.get?_fields_joined, joined]
  · intro finished
    rw [Run.unfinished_iff] at finished
    rw [if_neg finished, joined]

/-- What becomes of a run if the unfinished ones are changed. It is changed in its place,
    written and read again. -/
theorem mem_changedDocument (other : Run)
    (member : other ∈ (changedDocument change document).runs) :
    ∃ run ∈ document.runs, ∃ place,
      other = (if run.status.inProgress then change place run else run).joined := by
  rw [runs_changedDocument change document keepsPlace] at member
  obtain ⟨changed, given, rfl⟩ := List.mem_map.mp member
  obtain ⟨run, stored, place, rfl⟩ := mem_withUnfinished change document.runs changed given
  exact ⟨run, stored, place, rfl⟩

/-- The document behind a change of a document that loads loads again, so that the next
    operation finds the runs that are there. -/
theorem loads_changedDocument (loads : document.Loads) :
    (changedDocument change document).Loads := by
  rcases changeUnfinished_cases change document keepsPlace with ⟨_, none⟩ | ⟨_, saved⟩
  · rw [changedDocument, Change.document, none]
    exact loads
  · rw [changedDocument, Change.document_of_save _ document _ saved]
    exact loads_of_save _ _ saved

end Changes

/-- Behind an operation that changes the unfinished runs stand the changed runs, whatever it
    yields of them. This holds of a document that nests too deeply as well, since no run of
    it is found to be changed. -/
theorem after_of_changes (document : Document) (operation : Operation)
    (change : Nat → Run → Run) (answer : List Run → Answer)
    (performs : operation.perform document = (load document).map fun runs =>
      ⟨answer (changedRuns change runs), (changeUnfinished change runs).written⟩) :
    operation.after document = changedDocument change document := by
  rw [Operation.after, performs]
  rcases document.loads_or_tooDeep with loads | ⟨bracket, tooDeep⟩
  · rw [load_of_loads document loads]
    rfl
  · rw [load_of_tooDeep document bracket tooDeep, changedDocument,
      document.runs_of_tooDeep bracket tooDeep]
    rfl

end

/-- Where no run is unfinished none is found, and nothing is written. So the file is not even
    written as it was. -/
theorem changeUnfinished_of_finished (change : Nat → Run → Run) (runs : List Run)
    (finished : ∀ run ∈ runs, run.status.inProgress = false) :
    changeUnfinished change runs = ⟨[], none⟩ := by
  simp [changeUnfinished, (changedRuns_eq_nil change runs).mpr finished]

/-- As many runs are changed as are unfinished, whatever becomes of each in its place. This is
    the number that giving up yields. -/
theorem length_changedRuns (change : Nat → Run → Run) (runs : List Run) :
    (changedRuns change runs).length = runs.countP (·.Unfinished) := by
  have placed : runs.zipIdx.countP (·.1.status.inProgress) =
      (runs.zipIdx.map Prod.fst).countP (·.status.inProgress) := by
    rw [List.countP_map]
    rfl
  rw [changedRuns, List.length_map, ← List.countP_eq_length_filter, placed,
    List.zipIdx_map_fst]
  refine List.countP_congr fun run _ => ?_
  rw [decide_eq_true_iff, Run.unfinished_iff]

/-- A change that is the same in every place makes the runs that it yields of the
    unfinished ones, in stored order. -/
theorem changedRuns_const (change : Run → Run) (runs : List Run) :
    changedRuns (fun _ => change) runs = (runs.filter (·.Unfinished)).map change := by
  have unfinished : runs.filter (·.Unfinished) = runs.filter (·.status.inProgress) :=
    List.filter_congr fun run _ => by
      rw [Bool.eq_iff_iff, decide_eq_true_iff, Run.unfinished_iff]
  conv_rhs => rw [unfinished, ← List.zipIdx_map_fst 0 runs, List.filter_map, List.map_map]
  rfl

/-- A change that is the same in every place makes no use of the places. Putting back is such
    a change, as it reads no clock. -/
theorem withUnfinished_const (change : Run → Run) (runs : List Run) :
    withUnfinished (fun _ => change) runs =
      runs.map fun run => if run.status.inProgress then change run else run := by
  conv_rhs => rw [← List.zipIdx_map_fst 0 runs, List.map_map]
  rfl

/-! ## Giving up -/

section

variable [NestingLimits]

/-- What giving up the unfinished runs of a document comes to, the document that stands
    behind it being that behind the operation. -/
structure GivesUp (document : Document) (reason : Text) (clock : Nat → Text) : Prop where
  /-- The runs are held in their places, with what giving up makes of them there. -/
  held : (Operation.after document (.failUnfinished reason clock)).runs =
    (withUnfinished (givenUp reason clock) document.runs).map Run.joined
  /-- No run is unfinished any more. -/
  finished : ∀ run ∈ (Operation.after document (.failUnfinished reason clock)).runs,
    ¬run.Unfinished
  /-- Giving up succeeds if the document loads, and the number that is yielded is that of
      the unfinished runs. -/
  counted : document.Loads → ∃ change, failUnfinished reason clock document = .ok change ∧
    change.result = document.runs.countP (·.Unfinished)
  /-- Unfinished runs alone are changed, and those in four fields alone. -/
  kept : Run.AllKept Run.failedKeys document.runs
    (Operation.after document (.failUnfinished reason clock)).runs
  /-- Giving up again, for any reason and at any times, finds no run and writes nothing. -/
  again : document.Loads → ∀ other later,
    failUnfinished other later (Operation.after document (.failUnfinished reason clock)) =
      .ok ⟨0, none⟩

/-- Of a document that loads the unfinished runs are given up. This never fails, since their
    places can be written. -/
theorem failUnfinished_of_loads (document : Document) (loads : document.Loads) (reason : Text)
    (clock : Nat → Text) :
    failUnfinished reason clock document =
      .ok ⟨(changedRuns (givenUp reason clock) document.runs).length,
        (changeUnfinished (givenUp reason clock) document.runs).written⟩ :=
  (map_load_eq_ok document _ _).mpr ⟨loads, rfl⟩

/-- Behind giving up stand the changed runs. It yields their number. -/
theorem after_failUnfinished (document : Document) (reason : Text) (clock : Nat → Text) :
    Operation.after document (.failUnfinished reason clock) =
      changedDocument (givenUp reason clock) document := by
  refine after_of_changes document _ _ (fun runs => .count runs.length) ?_
  rw [Operation.perform, failUnfinished]
  cases load document <;> rfl

/-- A run that was given up is not in progress, and the others were not before. Writing and
    reading keep the status. -/
theorem finished_behind_failed (document : Document) (reason : Text) (clock : Nat → Text)
    (run : Run) (held : run ∈ (changedDocument (givenUp reason clock) document).runs) :
    run.status.inProgress = false := by
  obtain ⟨earlier, _, place, rfl⟩ :=
    mem_changedDocument (givenUp reason clock) document (fun _ _ => rfl) run held
  by_cases inProgress : earlier.status.inProgress = true
  · rw [if_pos inProgress]
    rfl
  · rw [if_neg inProgress]
    exact Bool.eq_false_iff.mpr inProgress

/-- Whatever the document and the times are, giving up comes to what it promises. The parts
    rest on what the changed document holds. -/
theorem failUnfinished_gives_up (document : Document) (reason : Text) (clock : Nat → Text) :
    GivesUp document reason clock where
  held := by
    rw [after_failUnfinished]
    exact runs_changedDocument (givenUp reason clock) document fun _ _ => rfl
  finished run held unfinished := by
    rw [after_failUnfinished] at held
    have done := finished_behind_failed document reason clock run held
    rw [run.unfinished_iff.mp unfinished] at done
    cases done
  counted loads :=
    ⟨_, failUnfinished_of_loads document loads reason clock, length_changedRuns _ _⟩
  kept := by
    rw [after_failUnfinished]
    exact allKept_changedDocument (givenUp reason clock) document (fun _ _ => rfl)
      Run.failedKeys fun place run => failed_keeps reason (clock place) run
  again loads other later := by
    have finished := finished_behind_failed document reason clock
    have loadsAgain := loads_changedDocument (givenUp reason clock) document (fun _ _ => rfl) loads
    rw [after_failUnfinished, failUnfinished, load_of_loads _ loadsAgain, Except.map,
      changeUnfinished_of_finished _ _ finished]
    rfl

/-! ## Putting back -/

/-- What putting the unfinished runs of a document back into the queue comes to, the
    document that stands behind it being that behind the operation. -/
structure Requeues (document : Document) (reason : Text) : Prop where
  /-- The runs are held in their places, with what putting back makes of them. -/
  held : (Operation.after document (.requeueUnfinished reason)).runs =
    (withUnfinished (fun _ => requeued reason) document.runs).map Run.joined
  /-- Putting back succeeds if the document loads. The unfinished runs are yielded in
      stored order, as they are to start anew. -/
  yielded : document.Loads → ∃ change, requeueUnfinished reason document = .ok change ∧
    change.result = (document.runs.filter (·.Unfinished)).map (requeued reason)
  /-- The runs that are yielded are those that are unfinished in the file. -/
  stored : ∀ change, requeueUnfinished reason document = .ok change →
    (Operation.after document (.requeueUnfinished reason)).runs.filter (·.Unfinished) =
      change.result.map Run.joined
  /-- Unfinished runs alone are changed, and those in five fields alone. -/
  kept : Run.AllKept Run.requeuedKeys document.runs
    (Operation.after document (.requeueUnfinished reason)).runs
  /-- Putting them back again for the same reason yields the same runs. -/
  yieldedAgain : ∀ change, requeueUnfinished reason document = .ok change →
    ∃ next, requeueUnfinished reason (Operation.after document (.requeueUnfinished reason)) =
      .ok next ∧ next.result = change.result
  /-- It leaves the same file. -/
  heldAgain : Operation.after (Operation.after document (.requeueUnfinished reason))
    (.requeueUnfinished reason) = Operation.after document (.requeueUnfinished reason)

/-- Putting back succeeds exactly on the documents that load, and it yields their
    unfinished runs as they are to start anew. -/
theorem requeueUnfinished_eq_ok (document : Document) (reason : Text)
    (change : Change (List Run)) :
    requeueUnfinished reason document = .ok change ↔
      document.Loads ∧ change = changeUnfinished (fun _ => requeued reason) document.runs :=
  map_load_eq_ok document _ change

/-- Behind putting back stand the changed runs. It yields them. -/
theorem after_requeueUnfinished (document : Document) (reason : Text) :
    Operation.after document (.requeueUnfinished reason) =
      changedDocument (fun _ => requeued reason) document := by
  refine after_of_changes document _ _ .runs ?_
  rw [Operation.perform, requeueUnfinished]
  cases load document <;> rfl

/-- The runs that are unfinished behind putting back are those that were put back. A queued
    run counts as unfinished. The induction is on the runs. -/
theorem unfinished_behind_requeued (document : Document) (reason : Text) :
    (changedDocument (fun _ => requeued reason) document).runs.filter (·.Unfinished) =
      ((document.runs.filter (·.Unfinished)).map (requeued reason)).map Run.joined := by
  rw [runs_changedDocument (fun _ => requeued reason) document fun _ _ => rfl,
    withUnfinished_const]
  induction document.runs with
  | nil => rfl
  | cons run runs inductionHypothesis =>
    by_cases unfinished : run.Unfinished
    · have inProgress := run.unfinished_iff.mp unfinished
      have still : (requeued reason run).joined.Unfinished := List.mem_cons_self
      simpa [inProgress, unfinished, still] using inductionHypothesis
    · have done := Bool.eq_false_iff.mpr (run.unfinished_iff.not.mp unfinished)
      have still : ¬run.joined.Unfinished := unfinished
      simpa [done, unfinished, still] using inductionHypothesis

end

/-- A run that was put back, written and read is put back to what it was. The fields that are
    laid over it are the same. -/
theorem requeued_joined (reason : Text) (run : Run) (joined : run.joined = run) :
    requeued reason (requeued reason run).joined = requeued reason run := by
  have same : requeued reason (requeued reason run).joined = requeued reason run.joined := rfl
  rw [same, joined]

/-- Changing unfinished runs that were changed already comes to the same. The five fields are
    laid over themselves. -/
theorem withUnfinished_requeued (reason : Text) (runs : List Run) :
    withUnfinished (fun _ => requeued reason) (withUnfinished (fun _ => requeued reason) runs) =
      withUnfinished (fun _ => requeued reason) runs := by
  rw [withUnfinished_const, withUnfinished_const, List.map_map]
  refine List.map_congr_left fun run _ => ?_
  by_cases inProgress : run.status.inProgress = true
  · simp only [Function.comp_apply, inProgress, if_true]
    rfl
  · simp [inProgress]

section

variable [NestingLimits]

/-- Putting back twice leaves the document that putting back once leaves. Where something
    was written, the same list of runs is written again. -/
theorem changedDocument_requeued (document : Document) (reason : Text) :
    changedDocument (fun _ => requeued reason)
        (changedDocument (fun _ => requeued reason) document) =
      changedDocument (fun _ => requeued reason) document := by
  rcases changeUnfinished_cases (fun _ => requeued reason) document (fun _ _ => rfl) with
    ⟨_, none⟩ | ⟨_, saved⟩
  · have same : changedDocument (fun _ => requeued reason) document = document := by
      rw [changedDocument, Change.document, none]
      rfl
    rw [same, same]
  · rw [← Change.document_of_save _ document _ saved] at saved
    obtain ⟨change, outcome, again⟩ := requeueUnfinished_keeps saved reason
    obtain ⟨_, rfl⟩ := (requeueUnfinished_eq_ok _ reason change).mp outcome
    rw [withUnfinished_requeued, saved] at again
    exact (Except.ok.inj again).symm

/-- Whatever the document is, putting back comes to what it promises. The parts rest on what
    the changed document holds. -/
theorem requeueUnfinished_requeues (document : Document) (reason : Text) :
    Requeues document reason where
  held := by
    rw [after_requeueUnfinished]
    exact runs_changedDocument (fun _ => requeued reason) document fun _ _ => rfl
  yielded loads :=
    ⟨_, (requeueUnfinished_eq_ok document reason _).mpr ⟨loads, rfl⟩, changedRuns_const _ _⟩
  stored change ok := by
    obtain ⟨_, rfl⟩ := (requeueUnfinished_eq_ok document reason change).mp ok
    rw [after_requeueUnfinished, unfinished_behind_requeued, ← changedRuns_const]
    rfl
  kept := by
    rw [after_requeueUnfinished]
    exact allKept_changedDocument (fun _ => requeued reason) document (fun _ _ => rfl)
      Run.requeuedKeys fun _ => requeued_keeps reason
  yieldedAgain change ok := by
    obtain ⟨loads, rfl⟩ := (requeueUnfinished_eq_ok document reason change).mp ok
    have loadsAgain :=
      loads_changedDocument (fun _ => requeued reason) document (fun _ _ => rfl) loads
    rw [after_requeueUnfinished]
    refine ⟨_, (requeueUnfinished_eq_ok _ reason _).mpr ⟨loadsAgain, rfl⟩, ?_⟩
    simp only [changeUnfinished, changedRuns_const]
    rw [unfinished_behind_requeued, List.map_map, List.map_map]
    refine List.map_congr_left fun run member => ?_
    exact requeued_joined reason run
      (document.joined_of_mem_runs run (List.mem_of_mem_filter member))
  heldAgain := by
    rw [after_requeueUnfinished, after_requeueUnfinished]
    exact changedDocument_requeued document reason

/-! ## Changes in sequence -/

/-- Whether the operation changes the unfinished runs. -/
def Operation.recovers : Operation → Bool
  | .failUnfinished _ _ | .requeueUnfinished _ => true
  | _ => false

/-- An operation on the unfinished runs keeps every run but for five of its fields, and
    finished runs in all. -/
theorem allKept_after (document : Document) (operation : Operation)
    (recovers : operation.recovers = true) :
    Run.AllKept Run.requeuedKeys document.runs (operation.after document).runs := by
  cases operation with
  | failUnfinished reason clock =>
    refine (failUnfinished_gives_up document reason clock).kept.imp fun run other kept => ?_
    exact kept.mono (by decide)
  | requeueUnfinished reason => exact (requeueUnfinished_requeues document reason).kept
  | setUp | create | update | saveFeedback | ask => cases recovers

/-- So do such operations in sequence. The induction is on the operations. -/
theorem allKept_afterAll (document : Document) (operations : List Operation)
    (recover : ∀ operation ∈ operations, operation.recovers = true) :
    Run.AllKept Run.requeuedKeys document.runs
      (Operation.afterAll document operations).runs := by
  induction operations generalizing document with
  | nil => exact List.forall₂_same.mpr fun run _ => Run.Kept.refl _ run
  | cons operation operations inductionHypothesis =>
    obtain ⟨first, others⟩ := List.forall_mem_cons.mp recover
    exact (allKept_after document operation first).trans
      (inductionHypothesis (operation.after document) others)

/-- Giving up and putting back touch exactly the unfinished runs, whatever the storage
    file holds, and in any sequence they leave ids, order, links and finished runs as
    they were. -/
theorem recovery_touches_unfinished_runs (document : Document) :
    (∀ reason clock, GivesUp document reason clock) ∧ (∀ reason, Requeues document reason) ∧
      ∀ operations : List Operation, (∀ operation ∈ operations, operation.recovers = true) →
        Run.AllKept Run.requeuedKeys document.runs
          (Operation.afterAll document operations).runs :=
  ⟨failUnfinished_gives_up document, requeueUnfinished_requeues document,
    allKept_afterAll document⟩

end

/-- Of a completed run and a running one, the running one alone is put back, and it is the
    one that is given up behind that. The completed run stays through both. -/
theorem running_run_is_recovered :
    (∃ change, requeueUnfinished "restart" (Document.ofRuns storedPair) = .ok change ∧
        change.result = [requeued "restart" storedPair[1]]) ∧
      (∃ change,
        failUnfinished "shutdown" (fun _ => "2024-01-02") (Document.ofRuns storedPair) =
          .ok change ∧ change.result = 1) ∧
      (Operation.afterAll (Document.ofRuns storedPair) [.requeueUnfinished "restart",
        .failUnfinished "shutdown" fun _ => "2024-01-02"]).runs[0]? = storedPair[0]? := by
  obtain ⟨givesUp, requeues, lasting⟩ := recovery_touches_unfinished_runs
    (Document.ofRuns storedPair)
  have saved : save storedPair = .ok (Document.ofRuns storedPair) :=
    (save_eq_ok _ _).mpr ⟨by decide +kernel, rfl⟩
  have loads := loads_of_save _ _ saved
  have held : (Document.ofRuns storedPair).runs = storedPair := by
    rw [runs_of_save _ _ saved]
    decide +kernel
  have kept := lasting [.requeueUnfinished "restart",
    .failUnfinished "shutdown" fun _ => "2024-01-02"] (by simp [Operation.recovers])
  rw [held] at kept
  refine ⟨?_, ?_, ?_⟩
  · obtain ⟨change, ok, yielded⟩ := (requeues "restart").yielded loads
    refine ⟨change, ok, ?_⟩
    rw [yielded, held]
    rfl
  · obtain ⟨change, ok, counted⟩ := (givesUp "shutdown" fun _ => "2024-01-02").counted loads
    refine ⟨change, ok, ?_⟩
    rw [counted, held]
    rfl
  · obtain ⟨run, others, first, _, whole⟩ := List.forall₂_cons_left_iff.mp kept
    rw [whole]
    exact congrArg some (first.finished (by decide))

end Store

end AgentRuns
