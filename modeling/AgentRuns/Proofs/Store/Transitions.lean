import AgentRuns.Proofs.Except
import AgentRuns.Proofs.Store.Operations
import AgentRuns.Proofs.Store.Reading

/-!
# What operations write

An operation that succeeds writes the document of a list of runs that it makes of
the runs that it read, or it writes nothing because there is nothing to change. This
is said once for all operations and for every content of the storage file; whatever
else is true of documents behind operations follows from it.
-/

namespace AgentRuns.Store

namespace Operation

/-- What an operation that writes makes of the runs that it read. -/
inductive Rewrites : List Run → Operation → List Run → Prop
  | setUp (runs : List Run) (noRuns : runs = []) : Rewrites runs .setUp []
  | create (runs : List Run) (defaultPrefix : Text) (creation : Creation) :
    Rewrites runs (.create defaultPrefix creation) (runs ++ [creation.run defaultPrefix runs])
  | update {id : Text} {runs before : List Run} {run : Run} {behind : List Run}
    (splits : Splits id runs before run behind) (changes : Table Json) (amended : Run)
    (amends : amend changes run = .ok amended) :
    Rewrites runs (.update id changes) (before ++ amended :: behind)
  | saveFeedback {id : Text} {runs before : List Run} {run : Run} {behind : List Run}
    (splits : Splits id runs before run behind) (feedback : Feedback) :
    Rewrites runs (.saveFeedback id feedback)
      (before ++ { run with feedback := some feedback } :: behind)
  | failUnfinished (runs : List Run) (reason : Text) (clock : Nat → Text)
    (unfinished : ∃ run ∈ runs, run.status.inProgress = true) :
    Rewrites runs (.failUnfinished reason clock) (withUnfinished (givenUp reason clock) runs)
  | requeueUnfinished (runs : List Run) (reason : Text)
    (unfinished : ∃ run ∈ runs, run.status.inProgress = true) :
    Rewrites runs (.requeueUnfinished reason) (withUnfinished (fun _ => requeued reason) runs)

/-- An operation that succeeds on the document and has nothing to write. Setting up does
    not load the document, and a question loads it if it needs its runs. -/
inductive Spares [NestingLimits] : Document → Operation → Prop
  | setUp (document : Document) (there : document.isSome = true) : Spares document .setUp
  | failUnfinished (document : Document) (loads : document.Loads) (reason : Text)
    (clock : Nat → Text) (finished : ∀ run ∈ document.runs, run.status.inProgress = false) :
    Spares document (.failUnfinished reason clock)
  | requeueUnfinished (document : Document) (loads : document.Loads) (reason : Text)
    (finished : ∀ run ∈ document.runs, run.status.inProgress = false) :
    Spares document (.requeueUnfinished reason)
  | ask (document : Document) (question : Question) (answer : Answer)
    (asked : question.ask document = .ok answer) : Spares document (.ask question)

end Operation

/-- Of a list of runs that can all be written but for one, that one decides whether
    the list can. -/
theorem save_among (before behind : List Run) (run : Run)
    (short : ∀ other ∈ before ++ behind, writable other = true) :
    save (before ++ run :: behind) =
      if writable run then .ok (Document.ofRuns (before ++ run :: behind))
      else .error .numberTooLong := by
  obtain ⟨shortBefore, shortBehind⟩ := List.forall_mem_append.mp short
  have one : (before ++ run :: behind).all writable = writable run := by
    rw [List.all_append, List.all_cons, List.all_eq_true.mpr shortBefore,
      List.all_eq_true.mpr shortBehind, Bool.true_and, Bool.and_true]
  rw [save, one]

variable [NestingLimits]

/-- A run that is created decides whether the list can be written. The others were read from a
    document, so they can be. -/
theorem save_created (document : Document) (run : Run) :
    save (document.runs ++ [run]) =
      if writable run then .ok (Document.ofRuns (document.runs ++ [run]))
      else .error .numberTooLong := by
  refine save_among document.runs [] run ?_
  rw [List.append_nil]
  exact document.runs_writable

/-- A run that takes the place of another decides whether the list can be written. The others
    were read from a document, so they can be. -/
theorem save_replaced {id : Text} {document : Document} {before : List Run} {run : Run}
    {behind : List Run} (splits : Splits id document.runs before run behind) (other : Run) :
    save (before ++ other :: behind) =
      if writable other then .ok (Document.ofRuns (before ++ other :: behind))
      else .error .numberTooLong := by
  have short := document.runs_writable
  rw [splits.whole, List.forall_mem_append, List.forall_mem_cons] at short
  exact save_among before behind other (List.forall_mem_append.mpr ⟨short.1, short.2.2⟩)

/-- Unfinished runs that keep their places in their chains are written, if there
    are any. -/
theorem changeUnfinished_cases (change : Nat → Run → Run) (document : Document)
    (keepsPlace : ∀ place run, (change place run).chainIndex = run.chainIndex) :
    ((∀ run ∈ document.runs, run.status.inProgress = false) ∧
      (changeUnfinished change document.runs).written = none) ∨
    ((∃ run ∈ document.runs, run.status.inProgress = true) ∧
      save (withUnfinished change document.runs) =
        .ok (changeUnfinished change document.runs).written) := by
  rcases changeUnfinished_written change document.runs with finished | ⟨unfinished, written⟩
  · exact Or.inl finished
  · rw [written]
    exact Or.inr ⟨unfinished, save_withUnfinished change document keepsPlace⟩

namespace Operation

/-- An operation that succeeds has nothing to write, or writes what it makes of the
    runs that it read. -/
theorem perform_cases (document : Document) (operation : Operation) (change : Change Answer)
    (ok : operation.perform document = .ok change) :
    (operation.Spares document ∧ change.written = none) ∨
      ∃ others, operation.Rewrites document.runs others ∧ save others = .ok change.written := by
  cases operation with
  | setUp =>
    cases ok
    cases document with
    | none => exact Or.inr ⟨[], .setUp _ rfl, rfl⟩
    | some content => exact Or.inl ⟨.setUp _ rfl, rfl⟩
  | create defaultPrefix creation =>
    obtain ⟨created, outcome, rfl⟩ := ok_of_map _ _ change ok
    obtain ⟨_, result, saved⟩ := (create_eq_ok _ _ _ _).mp outcome
    rw [result] at saved
    exact Or.inr ⟨_, .create document.runs defaultPrefix creation, saved⟩
  | update id changes =>
    obtain ⟨updated, outcome, rfl⟩ := ok_of_map _ _ change ok
    obtain ⟨before, run, behind, splits⟩ := exists_splits_of_update id changes _ _ outcome
    obtain ⟨amends, saved⟩ := (update_eq_ok splits changes updated).mp outcome
    exact Or.inr ⟨_, .update splits changes _ amends, saved⟩
  | saveFeedback id feedback =>
    obtain ⟨judged, outcome, rfl⟩ := ok_of_map _ _ change ok
    obtain ⟨before, run, behind, splits⟩ := exists_splits_of_update id _ _ _ outcome
    obtain ⟨amends, saved⟩ := (update_eq_ok splits _ judged).mp outcome
    rw [amend_feedback] at amends
    rw [← Except.ok.inj amends] at saved
    exact Or.inr ⟨_, .saveFeedback splits feedback, saved⟩
  | failUnfinished reason clock =>
    obtain ⟨_, outcome, rfl⟩ := ok_of_map _ _ change ok
    obtain ⟨loads, rfl⟩ := (map_load_eq_ok document _ _).mp outcome
    rcases changeUnfinished_cases (givenUp reason clock) document (fun _ _ => rfl) with
      ⟨finished, none⟩ | ⟨unfinished, saved⟩
    · exact Or.inl ⟨.failUnfinished document loads reason clock finished, none⟩
    · exact Or.inr ⟨_, .failUnfinished _ reason clock unfinished, saved⟩
  | requeueUnfinished reason =>
    obtain ⟨_, outcome, rfl⟩ := ok_of_map _ _ change ok
    obtain ⟨loads, rfl⟩ := (map_load_eq_ok document _ _).mp outcome
    rcases changeUnfinished_cases (fun _ => requeued reason) document (fun _ _ => rfl) with
      ⟨finished, none⟩ | ⟨unfinished, saved⟩
    · exact Or.inl ⟨.requeueUnfinished document loads reason finished, none⟩
    · exact Or.inr ⟨_, .requeueUnfinished _ reason unfinished, saved⟩
  | ask question =>
    obtain ⟨answer, asked, rfl⟩ := ok_of_map _ _ change ok
    exact Or.inl ⟨.ask document question answer asked, rfl⟩

/-- A run is created behind the runs that were read, whatever else the document held.
    Only its place in its chain may be too long to be written. -/
theorem after_create (document : Document) (loads : document.Loads) (defaultPrefix : Text)
    (creation : Creation) (short : writable (creation.run defaultPrefix document.runs) = true) :
    save (document.runs ++ [creation.run defaultPrefix document.runs]) =
      .ok (after document (.create defaultPrefix creation)) := by
  have saved := save_created document (creation.run defaultPrefix document.runs)
  rw [if_pos short] at saved
  have performed := (create_eq_ok defaultPrefix creation document
    ⟨_, Document.ofRuns (document.runs ++ [creation.run defaultPrefix document.runs])⟩).mpr
    ⟨loads, rfl, saved⟩
  rw [after, perform, performed]
  exact saved

/-- The created run stands behind the runs that were read. Those are as they were. -/
theorem runs_after_create (document : Document) (loads : document.Loads) (defaultPrefix : Text)
    (creation : Creation) (short : writable (creation.run defaultPrefix document.runs) = true) :
    (after document (.create defaultPrefix creation)).runs =
      document.runs ++ [(creation.run defaultPrefix document.runs).joined] := by
  rw [runs_of_save _ _ (after_create document loads defaultPrefix creation short), List.map_append,
    document.runs_joined]
  rfl

/-- Behind an operation stands the document before it, or what the operation makes
    of its runs. -/
theorem after_cases (document : Document) (operation : Operation) :
    operation.after document = document ∨
      ∃ others, operation.Rewrites document.runs others ∧
        save others = .ok (operation.after document) := by
  rw [after]
  cases outcome : operation.perform document with
  | error reason => exact Or.inl rfl
  | ok change =>
    rcases perform_cases document operation change outcome with
      ⟨_, none⟩ | ⟨others, rewrites, saved⟩
    · have unchanged : change.document document = document := by
        unfold Change.document
        rw [none]
        rfl
      exact Or.inl unchanged
    · have written := change.document_of_save document others saved
      exact Or.inr ⟨others, rewrites, saved.trans (congrArg Except.ok written.symm)⟩

/-- A document that loads is never left behind as one that does not. An operation that fails
    leaves it alone, and what is written loads. -/
theorem loads_after (document : Document) (loads : document.Loads) (operation : Operation) :
    (operation.after document).Loads := by
  rcases after_cases document operation with same | ⟨others, _, saved⟩
  · rw [same]
    exact loads
  · exact loads_of_save others _ saved

end Operation

end AgentRuns.Store
