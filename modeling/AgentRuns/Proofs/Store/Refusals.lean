import AgentRuns.Proofs.Store.Transitions
import AgentRuns.Store.Query

/-!
# What operations refuse

An operation fails for one of four reasons: the document nests too deeply to be loaded,
no run has the id that the operation names, a field that it gives is not valid, or a
run's place in its chain would be too long to be written. Runs that were read can always
be written, so only the run that an operation makes can have such a place. Where the
document loads, setting up, changing the unfinished runs and asking never fail.

A name leads to no run if nothing is left of it to look for, or if no run has the id
and there is not exactly one whose id starts like that. Nothing is loaded to find out
that nothing is left.
-/

namespace AgentRuns.Store

/-- Whether a question needs the runs of the document. -/
def Question.loads : Question → Bool
  | .find written => !(Identifier.key written).isEmpty
  | _ => true

/-- Whether an operation needs the runs of the document. -/
def Operation.loads : Operation → Bool
  | .setUp => false
  | .ask question => question.loads
  | _ => true

section

variable [NestingLimits]

/-- Why an operation on a document fails. -/
inductive Operation.Refuses (document : Document) : Operation → StoreError → Prop
  | tooDeep (operation : Operation) (loads : operation.loads = true) (bracket : Json.Bracket)
    (tooDeep : document.load = .error bracket) : Refuses document operation (.tooDeep bracket)
  | createdTooLong (defaultPrefix : Text) (creation : Creation) (loads : document.Loads)
    (long : writable (creation.run defaultPrefix document.runs) = false) :
    Refuses document (.create defaultPrefix creation) .numberTooLong
  | absent (id : Text) (changes : Table Json) (loads : document.Loads)
    (absent : ∀ run ∈ document.runs, run.id ≠ id) :
    Refuses document (.update id changes) (.unknownRun id)
  | invalid {id : Text} {before : List Run} {run : Run} {behind : List Run}
    (splits : Splits id document.runs before run behind) (changes : Table Json)
    (issues : List Issue)
    (invalid : Run.checkFields (run.fields.overlay changes) = .invalid issues) :
    Refuses document (.update id changes) (.invalid issues)
  | amendedTooLong {id : Text} {before : List Run} {run : Run} {behind : List Run}
    (splits : Splits id document.runs before run behind) (changes : Table Json) (amended : Run)
    (amends : amend changes run = .ok amended) (long : writable amended = false) :
    Refuses document (.update id changes) .numberTooLong
  | feedbackAbsent (id : Text) (feedback : Feedback) (loads : document.Loads)
    (absent : ∀ run ∈ document.runs, run.id ≠ id) :
    Refuses document (.saveFeedback id feedback) (.unknownRun id)

/-! ## Updates -/

/-- A run that stands in the list of a document was loaded with it. -/
theorem loads_of_splits {id : Text} {document : Document} {before : List Run} {run : Run}
    {behind : List Run} (splits : Splits id document.runs before run behind) : document.Loads :=
  document.loads_of_mem run splits.mem

/-- An update fails where no run of the loaded list has the id. Nothing of what it gives is
    checked. -/
theorem update_of_absent (id : Text) (changes : Table Json) (document : Document)
    (loads : document.Loads) (absent : ∀ run ∈ document.runs, run.id ≠ id) :
    update id changes document = .error (.unknownRun id) := by
  rw [update, load_of_loads document loads, Except.bind]
  simp only [amendFirst_of_absent id changes document.runs absent]
  rfl

/-- An update fails where its run is not amended, for the reason that the amending has. The
    list is not written. -/
theorem update_of_invalid {id : Text} {document : Document} {before : List Run} {run : Run}
    {behind : List Run} (splits : Splits id document.runs before run behind)
    (changes : Table Json) (reason : StoreError) (invalid : amend changes run = .error reason) :
    update id changes document = .error reason := by
  rw [update, load_of_loads document (loads_of_splits splits), Except.bind]
  simp only [amendFirst_of_splits splits, invalid]
  rfl

/-- An update with valid fields fails only if the place of the amended run is too long to
    be written. -/
theorem update_of_amended {id : Text} {document : Document} {before : List Run} {run : Run}
    {behind : List Run} (splits : Splits id document.runs before run behind)
    (changes : Table Json) (amended : Run) (amends : amend changes run = .ok amended) :
    update id changes document =
      if writable amended then
        .ok ⟨amended, Document.ofRuns (before ++ amended :: behind)⟩
      else .error .numberTooLong := by
  rw [update, load_of_loads document (loads_of_splits splits), Except.bind]
  simp only [amendFirst_of_splits splits, amends, Except.map, Except.bind,
    save_replaced splits amended]
  cases writable amended <;> rfl

end

/-- The reason why a run is not amended is what its check reports. Amending has no other way
    to fail. -/
theorem amend_eq_error (changes : Table Json) (run : Run) (reason : StoreError) :
    amend changes run = .error reason ↔
      ∃ issues, Run.checkFields (run.fields.overlay changes) = .invalid issues ∧
        reason = .invalid issues := by
  unfold amend
  cases Run.checkFields (run.fields.overlay changes) with
  | valid amended => simp
  | invalid issues => simp [eq_comm]

/-- One field that is not valid is enough for a run not to be amended. The other fields that
    are given are not kept either. -/
theorem not_amended_of_invalid (changes : Table Json) (run amended : Run) (slot : Slot)
    (field : slot ∈ Run.slots) (value : Json)
    (given : (Table.ofEntries changes).get? slot.key = some value)
    (refused : slot.keep? value = none) : amend changes run ≠ .ok amended := by
  intro amends
  have kept := (exists_amend changes run).mp ⟨amended, amends⟩ slot field value given
  rw [refused] at kept
  cases kept

section

variable [NestingLimits]

/-- Feedback for a run that is there is always saved. It was checked before, and the other
    fields were read from the file. -/
theorem saveFeedback_of_splits {id : Text} {document : Document} {before : List Run} {run : Run}
    {behind : List Run} (splits : Splits id document.runs before run behind)
    (feedback : Feedback) : ∃ change, saveFeedback id feedback document = .ok change := by
  have short : writable { run with feedback := some feedback } = true :=
    document.runs_writable run splits.mem
  have outcome := update_of_amended splits _ _ (amend_feedback feedback run)
  rw [if_pos short] at outcome
  exact ⟨_, outcome⟩

/-! ## Questions -/

/-- A document that loads answers every question about its runs. -/
theorem Question.ask_of_loads (document : Document) (loads : document.Loads)
    (question : Question) : question.ask document = .ok (question.answer document.runs) := by
  have loaded := load_of_loads document loads
  cases question with
  | find written =>
    simp only [ask, search, loaded, answer, find?]
    split <;> rfl
  | get | newest | latestOfThread | latestOfChannel | chain =>
    simp only [ask, loaded]
    rfl

/-- A document that nests too deeply answers no question that needs its runs. -/
theorem Question.ask_of_tooDeep (document : Document) (bracket : Json.Bracket)
    (tooDeep : document.load = .error bracket) (question : Question)
    (loads : question.loads = true) : question.ask document = .error (.tooDeep bracket) := by
  have failed := load_of_tooDeep document bracket tooDeep
  cases question with
  | find written =>
    have left : (Identifier.key written).isEmpty = false := (Bool.not_eq_true' _).mp loads
    rw [ask, search, left, failed]
    rfl
  | get | newest | latestOfThread | latestOfChannel | chain =>
    simp only [ask, failed]
    rfl

/-! ## All operations -/

namespace Operation

/-- An operation that needs the runs fails on a document that nests too deeply. It does so
    before it looks at what it is given. -/
theorem perform_of_tooDeep (document : Document) (bracket : Json.Bracket)
    (tooDeep : document.load = .error bracket) (operation : Operation)
    (loads : operation.loads = true) :
    operation.perform document = .error (.tooDeep bracket) := by
  have failed := load_of_tooDeep document bracket tooDeep
  cases operation with
  | setUp => cases loads
  | create => rw [perform, Store.create, failed]; rfl
  | update => rw [perform, Store.update, failed]; rfl
  | saveFeedback => rw [perform, Store.saveFeedback, Store.update, failed]; rfl
  | failUnfinished => rw [perform, Store.failUnfinished, failed]; rfl
  | requeueUnfinished => rw [perform, Store.requeueUnfinished, failed]; rfl
  | ask question => rw [perform, question.ask_of_tooDeep document bracket tooDeep loads]; rfl

/-- An operation that needs no runs succeeds on every document. It does not read the file. -/
theorem perform_of_not_loads (document : Document) (operation : Operation)
    (notLoads : operation.loads = false) : ∃ change, operation.perform document = .ok change := by
  cases operation with
  | setUp => exact ⟨_, rfl⟩
  | ask question =>
    cases question with
    | find written =>
      have empty : (Identifier.key written).isEmpty = true := (Bool.not_eq_false' _).mp notLoads
      exact ⟨_, by rw [perform, Question.ask, search, empty]; rfl⟩
    | get | newest | latestOfThread | latestOfChannel | chain => cases notLoads
  | create | update | saveFeedback | failUnfinished | requeueUnfinished => cases notLoads

/-- An update that fails on a document that loads has one of the reasons of updates. They are
    looked at in the order in which the update does. -/
theorem update_refuses (id : Text) (changes : Table Json) (document : Document)
    (loads : document.Loads) (reason : StoreError)
    (fails : Store.update id changes document = .error reason) :
    Refuses document (.update id changes) reason := by
  rcases splits_or_absent id document.runs with ⟨before, run, behind, splits⟩ | absent
  · cases amends : amend changes run with
    | error other =>
      rw [update_of_invalid splits changes other amends] at fails
      cases fails
      obtain ⟨issues, invalid, rfl⟩ := (amend_eq_error changes run _).mp amends
      exact .invalid splits changes issues invalid
    | ok amended =>
      rw [update_of_amended splits changes amended amends] at fails
      cases short : writable amended with
      | true =>
        rw [short] at fails
        cases fails
      | false =>
        rw [short] at fails
        cases fails
        exact .amendedTooLong splits changes amended amends short
  · rw [update_of_absent id changes document loads absent] at fails
    cases fails
    exact .absent id changes loads absent

/-- An operation that fails on a document that loads has one of the reasons. There is one case
    for each operation. -/
theorem refuses_of_loads (document : Document) (loads : document.Loads) (operation : Operation)
    (reason : StoreError) (fails : operation.perform document = .error reason) :
    operation.Refuses document reason := by
  have loaded := load_of_loads document loads
  cases operation with
  | create defaultPrefix creation =>
    rw [perform, map_eq_error, Store.create, loaded, Except.bind] at fails
    simp only [map_eq_error, save_created] at fails
    cases short : writable (creation.run defaultPrefix document.runs) with
    | true =>
      rw [short] at fails
      cases fails
    | false =>
      rw [short] at fails
      cases fails
      exact .createdTooLong defaultPrefix creation loads short
  | update id changes =>
    rw [perform, map_eq_error] at fails
    exact update_refuses id changes document loads reason fails
  | saveFeedback id feedback =>
    rw [perform, map_eq_error] at fails
    rcases splits_or_absent id document.runs with ⟨before, run, behind, splits⟩ | absent
    · obtain ⟨change, saved⟩ := saveFeedback_of_splits splits feedback
      rw [saved] at fails
      cases fails
    · rw [Store.saveFeedback, update_of_absent id _ document loads absent] at fails
      cases fails
      exact .feedbackAbsent id feedback loads absent
  | failUnfinished reason clock =>
    rw [perform, Store.failUnfinished, loaded] at fails
    cases fails
  | requeueUnfinished reason =>
    rw [perform, Store.requeueUnfinished, loaded] at fails
    cases fails
  | ask question =>
    rw [perform, question.ask_of_loads document loads] at fails
    cases fails
  | setUp => cases fails

/-- An operation fails exactly for one of the reasons. So its failures are told without
    running it. -/
theorem perform_eq_error (document : Document) (operation : Operation) (reason : StoreError) :
    operation.perform document = .error reason ↔ operation.Refuses document reason := by
  constructor
  · intro fails
    rcases document.loads_or_tooDeep with loads | ⟨bracket, tooDeep⟩
    · exact refuses_of_loads document loads operation reason fails
    · cases needs : operation.loads with
      | true =>
        rw [perform_of_tooDeep document bracket tooDeep operation needs] at fails
        cases fails
        exact .tooDeep operation needs bracket tooDeep
      | false =>
        obtain ⟨change, performed⟩ := perform_of_not_loads document operation needs
        rw [performed] at fails
        cases fails
  · intro refuses
    cases refuses with
    | tooDeep _ needs bracket tooDeep =>
      exact perform_of_tooDeep document bracket tooDeep operation needs
    | createdTooLong defaultPrefix creation loads long =>
      rw [perform, map_eq_error, Store.create, load_of_loads document loads, Except.bind]
      simp only [map_eq_error, save_created, long]
      rfl
    | absent id changes loads absent =>
      rw [perform, update_of_absent id changes document loads absent]
      rfl
    | invalid splits changes issues invalid =>
      have unamended := (amend_eq_error changes _ _).mpr ⟨issues, invalid, rfl⟩
      rw [perform, update_of_invalid splits changes _ unamended]
      rfl
    | amendedTooLong splits changes amended amends long =>
      rw [perform, update_of_amended splits changes amended amends, long]
      rfl
    | feedbackAbsent id feedback loads absent =>
      rw [perform, Store.saveFeedback, update_of_absent id _ document loads absent]
      rfl

/-- An update with a field that is not valid fails, whatever else it gives. The run need not
    be there for that. -/
theorem update_fails_of_invalid (document : Document) (id : Text) (changes : Table Json)
    (slot : Slot) (field : slot ∈ Run.slots) (value : Json)
    (given : (Table.ofEntries changes).get? slot.key = some value)
    (refused : slot.keep? value = none) :
    ∃ reason, (Operation.update id changes).perform document = .error reason := by
  rcases document.loads_or_tooDeep with loads | ⟨bracket, tooDeep⟩
  · rcases splits_or_absent id document.runs with ⟨before, run, behind, splits⟩ | absent
    · cases amends : amend changes run with
      | error reason =>
        rw [perform, update_of_invalid splits changes reason amends]
        exact ⟨reason, rfl⟩
      | ok amended =>
        exact absurd amends
          (not_amended_of_invalid changes run amended slot field value given refused)
    · rw [perform, update_of_absent id changes document loads absent]
      exact ⟨_, rfl⟩
  · exact ⟨_, perform_of_tooDeep document bracket tooDeep _ rfl⟩

end Operation

/-! ## Names that lead nowhere -/

/-- Nothing is left of the name to look for, or it is neither the id of a run of the
    loaded document nor the start of the id of exactly one. -/
def Unresolved (document : Document) (written : Text) : Prop :=
  Identifier.key written = [] ∨
    document.Loads ∧ (∀ run ∈ document.runs, run.id ≠ Identifier.key written) ∧
      (document.runs.filter (·.id.startsWith (Identifier.key written))).length ≠ 1

end

/-- A key looks up no run if it is no id and does not begin exactly one. A start that several
    ids share finds none of them. -/
theorem lookUp?_eq_none (runs : List Run) (key : Text) :
    lookUp? runs key = none ↔
      (∀ run ∈ runs, run.id ≠ key) ∧ (runs.filter (·.id.startsWith key)).length ≠ 1 := by
  have exact : get? runs key = none ↔ ∀ run ∈ runs, run.id ≠ key := by
    simp [get?, List.find?_eq_none]
  rw [← exact, lookUp?]
  cases get? runs key with
  | some run => simp
  | none =>
    generalize runs.filter (·.id.startsWith key) = begun
    rcases begun with _ | ⟨run, _ | ⟨other, rest⟩⟩ <;> simp

/-- A run that is found is one of the runs. A name leads to nothing else. -/
theorem mem_of_find? (runs : List Run) (written : Text) (run : Run)
    (found : find? runs written = some run) : run ∈ runs := by
  simp only [find?, lookUp?] at found
  split at found
  · cases found
  · split at found
    · rename_i exact
      cases found
      exact List.mem_of_find?_eq_some exact
    · split at found
      · rename_i only
        cases found
        exact (List.mem_filter.mp (only ▸ List.mem_singleton_self run)).1
      · cases found

/-- A name leads to no run of the document exactly if it is unresolved there. A document
    that nests too deeply is no such case, unless nothing is left of the name. -/
theorem search_eq_none [NestingLimits] (document : Document) (written : Text) :
    search written document = .ok none ↔ Unresolved document written := by
  unfold search Unresolved
  split
  · rename_i empty
    exact ⟨fun _ => Or.inl (List.isEmpty_iff.mp empty), fun _ => rfl⟩
  · rename_i left
    have someKey : Identifier.key written ≠ [] := mt List.isEmpty_iff.mpr left
    rcases document.loads_or_tooDeep with loads | ⟨bracket, tooDeep⟩
    · simp only [load_of_loads document loads, Except.map, Except.ok.injEq, find?, left,
        lookUp?_eq_none, someKey, loads, false_or, true_and, if_false, Bool.false_eq_true]
    · have failed : ¬document.Loads := document.not_loads_of_tooDeep bracket tooDeep
      simp [load_of_tooDeep document bracket tooDeep, Except.map, someKey, failed]

/-- A name leads to a run of the document exactly if it leads to it among its runs. That the
    document loads need not be asked for, since it holds the run. -/
theorem search_eq_some [NestingLimits] (document : Document) (written : Text) (run : Run) :
    search written document = .ok (some run) ↔ find? document.runs written = some run := by
  unfold search
  split
  · rename_i empty
    simp [find?, empty]
  · rcases document.loads_or_tooDeep with loads | ⟨bracket, tooDeep⟩
    · simp [load_of_loads document loads, Except.map]
    · rw [load_of_tooDeep document bracket tooDeep, document.runs_of_tooDeep bracket tooDeep]
      refine ⟨fun fails => (nomatch fails), fun found => ?_⟩
      cases mem_of_find? [] written run found

/-- A search fails exactly if something is left of the name, and the document nests too
    deeply. -/
theorem search_eq_error [NestingLimits] (document : Document) (written : Text)
    (reason : StoreError) :
    search written document = .error reason ↔ Identifier.key written ≠ [] ∧
      ∃ bracket, document.load = .error bracket ∧ reason = .tooDeep bracket := by
  unfold search
  split
  · rename_i empty
    simp [List.isEmpty_iff.mp empty]
  · rename_i left
    have someKey : Identifier.key written ≠ [] := mt List.isEmpty_iff.mpr left
    rw [map_eq_error, load]
    cases document.load <;> simp [Except.mapError, someKey, eq_comm]

end AgentRuns.Store
