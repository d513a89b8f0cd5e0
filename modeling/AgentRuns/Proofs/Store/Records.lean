import AgentRuns.Proofs.Store.Operations

/-!
# Records are kept

Whatever is done to the store, the records that it held stay in their places. One is
appended, one is amended field by field, or unfinished ones are changed; the rest is
written as it was read. Their ids are therefore never lost, doubled or put in another
order, as long as no update gives an id, and updates of one record that give
different fields come to the same document in either order.

Texts make one difference: halves of a pair that stand side by side are one character
when they are read. All that is said here about what was read is said of the runs with
their pairs joined, and what was read is joined already.
-/

namespace AgentRuns.Store

section

variable [NestingLimits]

/-- The ids of the runs that a document holds, oldest first. -/
def ids (document : Document) : List Text := document.runs.map (·.id)

/-- What operations do to the document of a list of runs. -/
structure KeepsRecords (runs : List Run) (document : Document) : Prop where
  /-- The document holds the runs. -/
  held : document.runs = runs.map Run.joined
  /-- A run that is created stands behind the others. -/
  created : ∀ defaultPrefix creation change,
    create defaultPrefix creation document = .ok change →
      save (runs ++ [change.result]) = .ok (change.document document)
  /-- An update replaces the first run of the id. The fields that are given have
      their checked values, and all others are kept. -/
  updated : ∀ id changes change, update id changes document = .ok change →
    ∃ before run behind, runs = before ++ run :: behind ∧
      (∀ other ∈ before, other.joined.id ≠ id) ∧ run.joined.id = id ∧
      save (before ++ change.result :: behind) = .ok (change.document document) ∧
      ∀ key, change.result.fields.get? key =
        match (Table.ofEntries changes).get? key with
        | some value => Run.validated? key value
        | none => run.joined.fields.get? key
  /-- Feedback is given to the first run of the id, and nothing else of it changes. -/
  judged : ∀ id feedback change, saveFeedback id feedback document = .ok change →
    ∃ before run behind, runs = before ++ run :: behind ∧
      (∀ other ∈ before, other.joined.id ≠ id) ∧ run.joined.id = id ∧
      change.result = { run.joined with feedback := some feedback } ∧
      save (before ++ change.result :: behind) = .ok (change.document document)
  /-- Giving up succeeds and changes unfinished runs only, each at the time that the clock
      shows then. -/
  failed : ∀ reason clock, ∃ change, failUnfinished reason clock document = .ok change ∧
    save (withUnfinished (givenUp reason clock) runs) = .ok (change.document document)
  /-- Putting back into the queue succeeds and changes unfinished runs only. -/
  requeued : ∀ reason, ∃ change, requeueUnfinished reason document = .ok change ∧
    save (withUnfinished (fun _ => requeued reason) runs) = .ok (change.document document)
  /-- A question changes nothing. -/
  asked : ∀ question, Operation.after document (.ask question) = document
  /-- The ids that are held at some time are the first ones ever after. -/
  lasting : ∀ earlier later : List Operation,
    (∀ operation ∈ earlier ++ later, operation.givesId = false) →
      ids (Operation.afterAll document earlier) <+:
        ids (Operation.afterAll document (earlier ++ later))
  /-- Updates that give different fields and no id can change places. -/
  commuting : ∀ id (first second : Table Json) (one other : Change Run),
    (first.map Prod.fst).Disjoint (second.map Prod.fst) →
    Text.ofString "id" ∉ first.map Prod.fst ++ second.map Prod.fst →
    update id first document = .ok one → update id second document = .ok other →
      ∃ next another : Change Run,
        update id second (one.document document) = .ok next ∧
        update id first (other.document document) = .ok another ∧
        next.document (one.document document) = another.document (other.document document)

section Documents

variable {runs : List Run} {document : Document} (saved : save runs = .ok document)
include saved

/-- A run is created behind all others. Those are written as they were, and not as they are
    read back. -/
theorem create_keeps (defaultPrefix : Text) (creation : Creation) (change : Change Run)
    (ok : create defaultPrefix creation document = .ok change) :
    save (runs ++ [change.result]) = .ok (change.document document) := by
  obtain ⟨_, _, written⟩ := (create_eq_ok defaultPrefix creation document change).mp ok
  rw [change.document_of_save document _ written, ← written]
  refine save_congr _ _ ?_
  rw [runs_of_save runs document saved, List.map_append, List.map_append, List.map_map]
  simp only [Function.comp_def, Run.joined_joined]

/-- Where the runs that are held split, the runs that were written split. The two lists
    correspond place by place. -/
theorem Splits.written {id : Text} {before : List Run} {run : Run} {behind : List Run}
    (splits : Splits id document.runs before run behind) :
    ∃ earlier first later, runs = earlier ++ first :: later ∧ before = earlier.map Run.joined ∧
      run = first.joined ∧ behind = later.map Run.joined := by
  have whole := splits.whole
  rw [runs_of_save runs document saved] at whole
  obtain ⟨earlier, others, rfl, rfl, rest⟩ := List.map_eq_append_iff.mp whole
  obtain ⟨first, later, rfl, rfl, rfl⟩ := List.map_eq_cons_iff.mp rest
  exact ⟨earlier, first, later, rfl, rfl, rfl, rfl⟩

/-- An update replaces the first run of the id. The others are written as they were. -/
theorem update_keeps (id : Text) (changes : Table Json) (change : Change Run)
    (ok : update id changes document = .ok change) :
    ∃ before run behind, runs = before ++ run :: behind ∧
      (∀ other ∈ before, other.joined.id ≠ id) ∧ run.joined.id = id ∧
      amend changes run.joined = .ok change.result ∧
      save (before ++ change.result :: behind) = .ok (change.document document) := by
  obtain ⟨before, run, behind, splits⟩ := exists_splits_of_update id changes document change ok
  obtain ⟨amended, written⟩ := (update_eq_ok splits changes change).mp ok
  obtain ⟨earlier, first, later, rfl, rfl, rfl, rfl⟩ := Splits.written saved splits
  refine ⟨earlier, first, later, rfl, ?_, splits.here, amended, ?_⟩
  · exact fun other member => splits.earlier _ (List.mem_map_of_mem member)
  · rw [change.document_of_save document _ written, ← written]
    refine save_congr _ _ ?_
    simp only [List.map_append, List.map_cons, List.map_map, Function.comp_def, Run.joined_joined]

/-- Feedback is given to the first run of the id. It is an update of one field. -/
theorem saveFeedback_keeps (id : Text) (feedback : Feedback) (change : Change Run)
    (ok : saveFeedback id feedback document = .ok change) :
    ∃ before run behind, runs = before ++ run :: behind ∧
      (∀ other ∈ before, other.joined.id ≠ id) ∧ run.joined.id = id ∧
      change.result = { run.joined with feedback := some feedback } ∧
      save (before ++ change.result :: behind) = .ok (change.document document) := by
  obtain ⟨before, run, behind, whole, earlier, here, amended, written⟩ :=
    update_keeps saved id _ change ok
  rw [amend_feedback] at amended
  exact ⟨before, run, behind, whole, earlier, here, (Except.ok.inj amended).symm, written⟩

/-- Giving up changes the unfinished runs of the list in their places, each at a time of
    its own. What it yields and what it writes is what it makes of the loaded runs. -/
theorem failUnfinished_keeps (reason : Text) (clock : Nat → Text) :
    ∃ change, failUnfinished reason clock document = .ok change ∧
      save (withUnfinished (givenUp reason clock) runs) = .ok (change.document document) := by
  have loaded := load_of_loads document (loads_of_save runs document saved)
  refine ⟨_, by rw [failUnfinished, loaded]; rfl, ?_⟩
  refine changeUnfinished_document (givenUp reason clock) runs document saved
    (fun place run => rfl) fun place run => ?_
  have same := run.joined_joined
  simp only [failed, Run.joined] at same ⊢
  simp only [Run.mk.injEq] at same ⊢
  simp [same]

/-- Putting back into the queue changes the unfinished runs of the list in their places. The
    finished ones are written as they were. -/
theorem requeueUnfinished_keeps (reason : Text) :
    ∃ change, requeueUnfinished reason document = .ok change ∧
      save (withUnfinished (fun _ => requeued reason) runs) = .ok (change.document document) := by
  have loaded := load_of_loads document (loads_of_save runs document saved)
  refine ⟨_, by rw [requeueUnfinished, loaded]; rfl, ?_⟩
  refine changeUnfinished_document (fun _ => requeued reason) runs document saved
    (fun place run => rfl) fun place run => ?_
  have same := run.joined_joined
  simp only [requeued, Run.joined] at same ⊢
  simp only [Run.mk.injEq] at same ⊢
  simp [same]

/-- The ids that are held are those that were written, with their pairs joined. No run is left
    out or added. -/
theorem ids_of_save : ids document = runs.map (·.joined.id) := by
  rw [ids, runs_of_save runs document saved, List.map_map]
  rfl

end Documents

end

/-- An amended run keeps its id unless an id is given. An amendment sets the fields that are
    given and no others. -/
theorem amend_id (changes : Table Json) (run amended : Run)
    (noId : Text.ofString "id" ∉ changes.map Prod.fst) (ok : amend changes run = .ok amended) :
    amended.id = run.id := by
  have kept := amend_fields changes run amended ok "id"
  rw [Table.get?_ofEntries_of_notMem changes "id" noId] at kept
  exact Json.string.inj (Option.some.inj kept)

/-- The runs of one list, and further ones, stand for the runs of the other with the
    same ids. -/
def Continues (runs others : List Run) : Prop :=
  runs.map (·.joined.id) <+: others.map (·.joined.id)

/-- Unfinished runs keep their ids if the change does. Their places in the list are kept in
    any case. -/
theorem continues_withUnfinished (change : Nat → Run → Run) (runs : List Run)
    (keepsId : ∀ place run, (change place run).id = run.id) :
    Continues runs (withUnfinished change runs) := by
  have same := map_withUnfinished (·.joined.id) change runs fun place run =>
    congrArg Text.joined (keepsId place run)
  simp only [Continues, same, List.prefix_rfl]

/-- A run in its place may be another one with its id. The list of ids is the same then. -/
theorem continues_replaced (before behind : List Run) (run other : Run)
    (same : other.joined.id = run.joined.id) :
    Continues (before ++ run :: behind) (before ++ other :: behind) := by
  simp only [Continues, List.map_append, List.map_cons, same]
  exact List.prefix_rfl

/-- An operation leaves a document of some list of runs, which continues the list
    before unless the operation gives an id. -/
theorem after_keeps [NestingLimits] (runs : List Run) (document : Document)
    (saved : save runs = .ok document) (operation : Operation) :
    ∃ others, save others = .ok (operation.after document) ∧
      (operation.givesId = false → Continues runs others) := by
  have unchanged : ∃ others, save others = .ok document ∧
      (operation.givesId = false → Continues runs others) :=
    ⟨runs, saved, fun _ => List.prefix_rfl⟩
  cases operation with
  | setUp =>
    obtain ⟨_, rfl⟩ := (save_eq_ok runs document).mp saved
    exact unchanged
  | create defaultPrefix creation =>
    rw [Operation.after, Operation.perform]
    cases outcome : create defaultPrefix creation document with
    | error => exact unchanged
    | ok change =>
      refine ⟨runs ++ [change.result], create_keeps saved _ _ _ outcome, fun _ => ?_⟩
      rw [Continues, List.map_append]
      exact List.prefix_append _ _
  | update id changes =>
    rw [Operation.after, Operation.perform]
    cases outcome : update id changes document with
    | error => exact unchanged
    | ok change =>
      obtain ⟨before, run, behind, rfl, _, _, amended, written⟩ :=
        update_keeps saved id changes change outcome
      refine ⟨_, written, fun noId => continues_replaced before behind run _ ?_⟩
      have absent : Text.ofString "id" ∉ changes.map Prod.fst := by
        intro member
        obtain ⟨entry, given, named⟩ := List.mem_map.mp member
        exact List.any_eq_false.mp noId entry given (beq_iff_eq.mpr named)
      have same : change.result.id = run.joined.id :=
        amend_id changes run.joined change.result absent amended
      rw [show change.result.joined.id = change.result.id.joined from rfl, same]
      exact Text.joined_joined run.id
  | saveFeedback id feedback =>
    rw [Operation.after, Operation.perform]
    cases outcome : saveFeedback id feedback document with
    | error => exact unchanged
    | ok change =>
      obtain ⟨before, run, behind, rfl, _, _, given, written⟩ :=
        saveFeedback_keeps saved id feedback change outcome
      refine ⟨_, written, fun _ => continues_replaced before behind run _ ?_⟩
      rw [given]
      exact Text.joined_joined run.id
  | failUnfinished reason clock =>
    obtain ⟨change, outcome, written⟩ := failUnfinished_keeps saved reason clock
    rw [Operation.after, Operation.perform, outcome]
    exact ⟨_, written, fun _ => continues_withUnfinished _ runs fun _ _ => rfl⟩
  | requeueUnfinished reason =>
    obtain ⟨change, outcome, written⟩ := requeueUnfinished_keeps saved reason
    rw [Operation.after, Operation.perform, outcome]
    exact ⟨_, written, fun _ => continues_withUnfinished _ runs fun _ _ => rfl⟩
  | ask question =>
    rw [Operation.after_ask]
    exact unchanged

/-- Operations in sequence leave a document of some list of runs, which continues the
    list before them if none of them gives an id. -/
theorem afterAll_keeps [NestingLimits] (runs : List Run) (document : Document)
    (saved : save runs = .ok document) (operations : List Operation) :
    ∃ others, save others = .ok (Operation.afterAll document operations) ∧
      ((∀ operation ∈ operations, operation.givesId = false) → Continues runs others) := by
  induction operations generalizing runs document with
  | nil => exact ⟨runs, saved, fun _ => List.prefix_rfl⟩
  | cons operation operations inductionHypothesis =>
    obtain ⟨next, nextSaved, one⟩ := after_keeps runs document saved operation
    obtain ⟨others, othersSaved, rest⟩ := inductionHypothesis next _ nextSaved
    refine ⟨others, othersSaved, fun noId => ?_⟩
    obtain ⟨first, further⟩ := List.forall_mem_cons.mp noId
    exact (one first).trans (rest further)

/-- The ids that are held at some time are the first ones ever after. The later operations may
    fail or succeed, and none of them takes a run away. -/
theorem ids_last [NestingLimits] (runs : List Run) (document : Document)
    (saved : save runs = .ok document) (earlier later : List Operation)
    (noId : ∀ operation ∈ earlier ++ later, operation.givesId = false) :
    ids (Operation.afterAll document earlier) <+:
      ids (Operation.afterAll document (earlier ++ later)) := by
  obtain ⟨between, betweenSaved, _⟩ := afterAll_keeps runs document saved earlier
  obtain ⟨others, othersSaved, continues⟩ :=
    afterAll_keeps between _ betweenSaved later
  have composed : Operation.afterAll document (earlier ++ later) =
      Operation.afterAll (Operation.afterAll document earlier) later := List.foldl_append
  rw [composed, ids_of_save betweenSaved, ids_of_save othersSaved]
  exact continues fun operation member => noId operation (List.mem_append_right earlier member)

/-! ## Updates in either order -/

/-- Reading a run that was read changes none of its fields. A pair that was joined is no pair
    any more. -/
theorem get?_fields_joined_joined (run : Run) (key : Text) :
    (run.joined.fields.get? key).map Json.joined = run.joined.fields.get? key := by
  rw [← run.joined.get?_fields_joined, run.joined_joined]

/-- A run that is amended, written, read and amended again has what was given last. A field
    that neither amendment gives is the one of the run. -/
theorem amend_twice (first second : Table Json) (run one next : Run)
    (oneOk : amend first run = .ok one) (nextOk : amend second one.joined = .ok next)
    (key : Text) :
    next.joined.fields.get? key =
      (match (Table.ofEntries second).get? key with
      | some value => Run.validated? key value
      | none =>
        match (Table.ofEntries first).get? key with
        | some value => Run.validated? key value
        | none => run.fields.get? key).map Json.joined := by
  rw [Run.get?_fields_joined, amend_fields _ _ _ nextOk key]
  cases (Table.ofEntries second).get? key with
  | some value => rfl
  | none =>
    dsimp only
    rw [get?_fields_joined_joined, Run.get?_fields_joined]
    exact congrArg (Option.map Json.joined) (amend_fields _ _ _ oneOk key)

/-- Different fields can be given in either order. The two runs have the same fields one by
    one, and a run is its fields. -/
theorem amend_commutes (first second : Table Json)
    (disjoint : (first.map Prod.fst).Disjoint (second.map Prod.fst))
    (run one other next another : Run)
    (oneOk : amend first run = .ok one) (nextOk : amend second one.joined = .ok next)
    (otherOk : amend second run = .ok other) (anotherOk : amend first other.joined = .ok another) :
    next.joined = another.joined := by
  refine Run.eq_of_get?_fields _ _ fun key => ?_
  rw [amend_twice first second run one next oneOk nextOk,
    amend_twice second first run other another otherOk anotherOk]
  by_cases given : key ∈ first.map Prod.fst
  · rw [Table.get?_ofEntries_of_notMem second key (disjoint given)]
  · rw [Table.get?_ofEntries_of_notMem first key given]

/-- An amended run has a number that can be written if the run has one, and if another
    run that is amended alike has one. -/
theorem amend_writable (changes : Table Json) (run other amended changed : Run)
    (amendedOk : amend changes run = .ok amended) (changedOk : amend changes other = .ok changed)
    (runShort : writable run = true) (changedShort : writable changed = true) :
    writable amended = true := by
  have amendedPlace := amend_fields changes run amended amendedOk "chainIndex"
  have changedPlace := amend_fields changes other changed changedOk "chainIndex"
  cases given : (Table.ofEntries changes).get? "chainIndex" with
  | some value =>
    rw [given] at amendedPlace changedPlace
    have same : amended.chainIndex = changed.chainIndex :=
      Json.int.inj (Option.some.inj (amendedPlace.trans changedPlace.symm))
    rwa [writable, same]
  | none =>
    rw [given] at amendedPlace
    have same : amended.chainIndex = run.chainIndex :=
      Json.int.inj (Option.some.inj amendedPlace)
    rwa [writable, same]

/-- A second update finds its run in the same place and succeeds as it would have
    succeeded on its own. -/
theorem update_again [NestingLimits] {runs : List Run} {document : Document}
    (saved : save runs = .ok document) {id : Text} {before : List Run} {run : Run}
    {behind : List Run} (splits : Splits id document.runs before run behind)
    (first second : Table Json) (one other : Change Run)
    (noId : Text.ofString "id" ∉ first.map Prod.fst) (oneOk : update id first document = .ok one)
    (otherOk : update id second document = .ok other) :
    ∃ next : Change Run, update id second (one.document document) = .ok next ∧
      amend second one.result.joined = .ok next.result ∧
      save (before ++ next.result :: behind) =
        .ok (next.document (one.document document)) := by
  obtain ⟨oneAmended, oneSaved⟩ := (update_eq_ok splits first one).mp oneOk
  obtain ⟨otherAmended, otherSaved⟩ := (update_eq_ok splits second other).mp otherOk
  rw [one.document_of_save document _ oneSaved]
  -- What was read has its pairs joined, so reading it again gives it back.
  have read : document.runs.map Run.joined = document.runs := by
    rw [runs_of_save runs document saved, List.map_map]
    exact List.map_congr_left fun run _ => run.joined_joined
  rw [splits.whole, List.map_append, List.map_cons] at read
  obtain ⟨beforeRead, rest⟩ := List.append_inj read (List.length_map _)
  obtain ⟨runRead, behindRead⟩ := List.cons.inj rest
  have found : Splits id (Document.runs one.written) before one.result.joined behind := by
    refine ⟨?_, splits.earlier, ?_⟩
    · rw [runs_of_save _ _ oneSaved, List.map_append, List.map_cons, beforeRead, behindRead]
    · have kept := amend_id first run one.result noId oneAmended
      rw [← splits.here, ← congrArg Run.id runRead]
      exact congrArg Text.joined kept
  obtain ⟨amended, amendedOk⟩ := (exists_amend second one.result.joined).mpr
    ((exists_amend second run).mp ⟨other.result, otherAmended⟩)
  have short : ∀ run ∈ before ++ amended :: behind, writable run = true := by
    have oneShort := ((save_eq_ok _ _).mp oneSaved).1
    have otherShort := ((save_eq_ok _ _).mp otherSaved).1
    simp only [List.forall_mem_append, List.forall_mem_cons] at oneShort otherShort ⊢
    exact ⟨oneShort.1, amend_writable second one.result.joined run amended other.result
      amendedOk otherAmended oneShort.2.1 otherShort.2.1, oneShort.2.2⟩
  have amendedSaved := (save_eq_ok (before ++ amended :: behind) _).mpr ⟨short, rfl⟩
  refine ⟨⟨amended, Document.ofRuns (before ++ amended :: behind)⟩, ?_, amendedOk, amendedSaved⟩
  exact (update_eq_ok found second _).mpr ⟨amendedOk, amendedSaved⟩

/-- Updates that give different fields and no id can change places. Each of them meets the
    same run, since the other one leaves the ids alone. -/
theorem updates_commute [NestingLimits] {runs : List Run} {document : Document}
    (saved : save runs = .ok document) (id : Text) (first second : Table Json)
    (one other : Change Run) (disjoint : (first.map Prod.fst).Disjoint (second.map Prod.fst))
    (noId : Text.ofString "id" ∉ first.map Prod.fst ++ second.map Prod.fst)
    (oneOk : update id first document = .ok one) (otherOk : update id second document = .ok other) :
    ∃ next another : Change Run,
      update id second (one.document document) = .ok next ∧
      update id first (other.document document) = .ok another ∧
      next.document (one.document document) = another.document (other.document document) := by
  obtain ⟨before, run, behind, splits⟩ := exists_splits_of_update id first document one oneOk
  obtain ⟨oneAmended, _⟩ := (update_eq_ok splits first one).mp oneOk
  obtain ⟨otherAmended, _⟩ := (update_eq_ok splits second other).mp otherOk
  rw [List.mem_append, not_or] at noId
  obtain ⟨next, nextOk, nextAmended, nextSaved⟩ :=
    update_again saved splits first second one other noId.1 oneOk otherOk
  obtain ⟨another, anotherOk, anotherAmended, anotherSaved⟩ :=
    update_again saved splits second first other one noId.2 otherOk oneOk
  have alike := amend_commutes first second disjoint run one.result other.result next.result
    another.result oneAmended nextAmended otherAmended anotherAmended
  have same : save (before ++ next.result :: behind) =
      save (before ++ another.result :: behind) := by
    refine save_congr _ _ ?_
    simp only [List.map_append, List.map_cons, alike]
  rw [nextSaved, anotherSaved] at same
  exact ⟨next, another, nextOk, anotherOk, Except.ok.inj same⟩

/-- Every operation on the document of a list of runs keeps their records. The parts are the
    laws of the operations above. -/
theorem records_are_kept [NestingLimits] (runs : List Run) (document : Document)
    (saved : save runs = .ok document) : KeepsRecords runs document where
  held := runs_of_save runs document saved
  created := create_keeps saved
  updated id changes change ok := by
    obtain ⟨before, run, behind, whole, earlier, here, amended, written⟩ :=
      update_keeps saved id changes change ok
    exact ⟨before, run, behind, whole, earlier, here, written, amend_fields _ _ _ amended⟩
  judged := saveFeedback_keeps saved
  failed := failUnfinished_keeps saved
  requeued := requeueUnfinished_keeps saved
  asked := Operation.after_ask document
  lasting := ids_last runs document saved
  commuting id first second one other disjoint noId :=
    updates_commute saved id first second one other disjoint noId

/-- Two runs of one thread, the later one unfinished. -/
def storedPair : List Run :=
  let first : Run :=
    { id := "a", status := .completed, repoSlug := "acme/site", task := "Fix it",
      baseBranch := "main", branchName := "agent/a", requestedBy := "U1", channelId := "C1",
      threadTs := "1.5", createdAt := "2024-01-01" }
  [first, { first with id := "b", status := .running }]

/-- Both runs are kept, and the later one can be updated twice in either order. -/
theorem stored_pair_is_kept :
    KeepsRecords storedPair (Document.ofRuns storedPair) ∧
      ∃ one other next another : Change Run,
        update "b" [("status", .string "completed")] (Document.ofRuns storedPair) = .ok one ∧
        update "b" [("commitSha", .string "f00d")] (Document.ofRuns storedPair) = .ok other ∧
        update "b" [("commitSha", .string "f00d")]
          (one.document (Document.ofRuns storedPair)) = .ok next ∧
        update "b" [("status", .string "completed")]
          (other.document (Document.ofRuns storedPair)) = .ok another ∧
        next.document (one.document (Document.ofRuns storedPair)) =
          another.document (other.document (Document.ofRuns storedPair)) := by
  have saved : save storedPair = .ok (Document.ofRuns storedPair) :=
    (save_eq_ok _ _).mpr ⟨by decide +kernel, rfl⟩
  have kept := records_are_kept storedPair (Document.ofRuns storedPair) saved
  have held : (Document.ofRuns storedPair).runs = storedPair := by
    rw [kept.held]
    decide +kernel
  have loaded : load (Document.ofRuns storedPair) = .ok storedPair := by
    rw [load_of_loads _ (loads_of_save _ _ saved), held]
  obtain ⟨one, oneOk⟩ : ∃ one : Change Run,
      update "b" [("status", .string "completed")] (Document.ofRuns storedPair) = .ok one := by
    rw [update, loaded]
    exact ⟨_, rfl⟩
  obtain ⟨other, otherOk⟩ : ∃ other : Change Run,
      update "b" [("commitSha", .string "f00d")] (Document.ofRuns storedPair) = .ok other := by
    rw [update, loaded]
    exact ⟨_, rfl⟩
  have disjoint : [Text.ofString "status"].Disjoint ["commitSha"] :=
    List.singleton_disjoint.mpr (by decide)
  obtain ⟨next, another, orders⟩ := kept.commuting "b"
    [("status", .string "completed")] [("commitSha", .string "f00d")] one other
    disjoint (by decide) oneOk otherOk
  exact ⟨kept, one, other, next, another, oneOk, otherOk, orders⟩

end AgentRuns.Store
