import AgentRuns.Proofs.Except
import AgentRuns.Proofs.Store.Reading
import AgentRuns.Store.Query

/-!
# Operations on the store

An operation reads the document and writes all of it or nothing. What it writes is
the document of the runs that were read, with one run more at the end, one run
amended in its place, or the unfinished ones changed in their places. An operation
that fails and one that only reads leave the document as it is.

All but setting up load the document first, and a document that nests too deeply fails
them there. So what is said of an operation that succeeds is said of a document that
loads.
-/

namespace AgentRuns.Store

/-! ## Loading -/

/-- A change or a question begins with the runs of the document, if it loads. A document that
    cannot be decoded loads and holds no run. -/
theorem load_eq_ok [NestingLimits] (document : Document) (runs : List Run) :
    load document = .ok runs ↔ document.Loads ∧ runs = document.runs := by
  unfold load
  rcases document.loads_or_tooDeep with loads | ⟨bracket, tooDeep⟩
  · rw [loads]
    exact ⟨fun same => ⟨loads, (Except.ok.inj same).symm⟩, fun same => by rw [same.2]; rfl⟩
  · have failed := document.not_loads_of_tooDeep bracket tooDeep
    simp [tooDeep, Except.mapError, failed]

/-- A document that loads gives its runs to the change or the question. -/
theorem load_of_loads [NestingLimits] (document : Document) (loads : document.Loads) :
    load document = .ok document.runs :=
  (load_eq_ok document document.runs).mpr ⟨loads, rfl⟩

/-- A document that nests too deeply fails the change or the question at once. Nothing has
    been written by then. -/
theorem load_of_tooDeep [NestingLimits] (document : Document) (bracket : Json.Bracket)
    (tooDeep : document.load = .error bracket) : load document = .error (.tooDeep bracket) := by
  rw [load, tooDeep]
  rfl

/-- What is made of the runs of a document is made of the runs that it holds, and only if it
    loads. Recovering runs and asking for them begin like this. -/
theorem map_load_eq_ok [NestingLimits] {α : Type} (document : Document) (use : List Run → α)
    (result : α) :
    (load document).map use = .ok result ↔ document.Loads ∧ result = use document.runs := by
  constructor
  · intro done
    obtain ⟨runs, loaded, rfl⟩ := ok_of_map _ _ _ done
    obtain ⟨loads, rfl⟩ := (load_eq_ok document runs).mp loaded
    exact ⟨loads, rfl⟩
  · rintro ⟨loads, rfl⟩
    rw [load_of_loads document loads]
    rfl

/-! ## One run of a list -/

/-- The list has the first run of the id between two parts. -/
structure Splits (id : Text) (runs before : List Run) (run : Run) (behind : List Run) : Prop where
  whole : runs = before ++ run :: behind
  earlier : ∀ other ∈ before, other.id ≠ id
  here : run.id = id

/-- The run at which a list splits is one of its runs. -/
theorem Splits.mem {id : Text} {runs before : List Run} {run : Run} {behind : List Run}
    (splits : Splits id runs before run behind) : run ∈ runs :=
  splits.whole ▸ List.mem_append_right before List.mem_cons_self

/-- A list splits at an id unless none of its runs has it. These are the two cases of a
    lookup. -/
theorem splits_or_absent (id : Text) (runs : List Run) :
    (∃ before run behind, Splits id runs before run behind) ∨ ∀ run ∈ runs, run.id ≠ id := by
  induction runs with
  | nil => exact Or.inr fun run member => nomatch member
  | cons first runs inductionHypothesis =>
    by_cases here : first.id = id
    · exact Or.inl ⟨[], first, runs, rfl, fun other member => (nomatch member), here⟩
    · rcases inductionHypothesis with ⟨before, run, behind, rfl, earlier, found⟩ | absent
      · exact Or.inl ⟨first :: before, run, behind, rfl,
          List.forall_mem_cons.mpr ⟨here, earlier⟩, found⟩
      · exact Or.inr (List.forall_mem_cons.mpr ⟨here, absent⟩)

/-- The first run of the id is amended in its place. The runs before and behind it stay, and a
    refusal of the changes is passed on. -/
theorem amendFirst_of_splits {id : Text} {runs before : List Run} {run : Run} {behind : List Run}
    (splits : Splits id runs before run behind) (changes : Table Json) :
    amendFirst id changes runs =
      (amend changes run).map fun amended => (amended, before ++ amended :: behind) := by
  obtain ⟨rfl, earlier, here⟩ := splits
  induction before with
  | nil => rw [List.nil_append, amendFirst, if_pos here]; rfl
  | cons first before inductionHypothesis =>
    obtain ⟨other, earlier⟩ := List.forall_mem_cons.mp earlier
    rw [List.cons_append, amendFirst, if_neg other, inductionHypothesis earlier]
    cases amend changes run <;> rfl

/-- No run is amended where none has the id. The id is named in the failure. -/
theorem amendFirst_of_absent (id : Text) (changes : Table Json) (runs : List Run)
    (absent : ∀ run ∈ runs, run.id ≠ id) :
    amendFirst id changes runs = .error (.unknownRun id) := by
  induction runs with
  | nil => rfl
  | cons first runs inductionHypothesis =>
    obtain ⟨other, absent⟩ := List.forall_mem_cons.mp absent
    rw [amendFirst, if_neg other, inductionHypothesis absent]
    rfl

/-! ## Changes -/

/-- What is written for a list of runs is the document behind the change. What was there
    before has no part in it. -/
theorem Change.document_of_save {α : Type} (change : Change α) (before : Document)
    (runs : List Run) (saved : save runs = .ok change.written) :
    change.document before = change.written := by
  obtain ⟨_, written⟩ := (save_eq_ok runs change.written).mp saved
  rw [Change.document, ← written]
  rfl

/-- A run is created at the end of the list that was loaded. It succeeds if the document loads
    and the longer list can be written. -/
theorem create_eq_ok [NestingLimits] (defaultPrefix : Text) (creation : Creation)
    (document : Document) (change : Change Run) :
    create defaultPrefix creation document = .ok change ↔
      document.Loads ∧ change.result = creation.run defaultPrefix document.runs ∧
        save (document.runs ++ [change.result]) = .ok change.written := by
  obtain ⟨result, written⟩ := change
  constructor
  · intro ok
    obtain ⟨runs, loaded, rest⟩ := ok_of_bind _ _ _ ok
    obtain ⟨loads, rfl⟩ := (load_eq_ok document runs).mp loaded
    obtain ⟨other, saved, same⟩ := ok_of_map _ _ _ rest
    cases same
    exact ⟨loads, rfl, saved⟩
  · rintro ⟨loads, rfl, saved⟩
    rw [create, load_of_loads document loads, Except.bind]
    simp only [saved]
    rfl

/-- An update amends the first run of the id and writes the list. That the list splits at the
    id says that the document loads. -/
theorem update_eq_ok [NestingLimits] {id : Text} {document : Document} {before : List Run}
    {run : Run} {behind : List Run} (splits : Splits id document.runs before run behind)
    (changes : Table Json) (change : Change Run) :
    update id changes document = .ok change ↔
      amend changes run = .ok change.result ∧
        save (before ++ change.result :: behind) = .ok change.written := by
  obtain ⟨result, written⟩ := change
  have loaded := load_of_loads document (document.loads_of_mem run splits.mem)
  rw [update, loaded, Except.bind]
  simp only [amendFirst_of_splits splits]
  cases amend changes run with
  | error => simp [Except.map, Except.bind]
  | ok amended =>
    simp only [Except.map, Except.bind, Except.ok.injEq]
    cases saved : save (before ++ amended :: behind) with
    | error =>
      constructor
      · rintro ⟨⟩
      · rintro ⟨rfl, other⟩
        rw [saved] at other
        cases other
    | ok other =>
      constructor
      · rintro ⟨⟩
        exact ⟨rfl, saved⟩
      · rintro ⟨rfl, same⟩
        rw [saved] at same
        cases same
        rfl

/-- An update that succeeds has found its run. It is the first one of the id. -/
theorem exists_splits_of_update [NestingLimits] (id : Text) (changes : Table Json)
    (document : Document) (change : Change Run) (ok : update id changes document = .ok change) :
    ∃ before run behind, Splits id document.runs before run behind := by
  rcases splits_or_absent id document.runs with found | absent
  · exact found
  · obtain ⟨runs, loaded, rest⟩ := ok_of_bind _ _ _ ok
    obtain ⟨_, rfl⟩ := (load_eq_ok document runs).mp loaded
    rw [amendFirst_of_absent id changes document.runs absent] at rest
    cases rest

/-- Feedback is kept as it is, and nothing else changes. It was checked before it came to the
    store. -/
theorem amend_feedback (feedback : Feedback) (run : Run) :
    amend [("feedback", feedback.toJson)] run = .ok { run with feedback := some feedback } := by
  have written : run.fields.overlay [("feedback", feedback.toJson)] =
      ({ run with feedback := some feedback } : Run).fields := rfl
  unfold amend
  rw [written, Run.checkFields_fields]

/-- A document that was written is written again for the runs that it holds. What is read back
    is what was written, up to joined pairs, and pairs are written alike. -/
theorem save_runs [NestingLimits] (runs : List Run) (document : Document)
    (saved : save runs = .ok document) :
    save document.runs = .ok document := by
  rw [runs_of_save runs document saved, save_joined, saved]

/-- A document that was written loads. The value that is written for a list of runs has few
    levels, which is within any limits. -/
theorem loads_of_save [NestingLimits] (runs : List Run) (document : Document)
    (saved : save runs = .ok document) :
    document.Loads := by
  obtain ⟨writable, rfl⟩ := (save_eq_ok runs document).mp saved
  exact Document.loads_of_load _ _ (Document.load_ofRuns runs writable)

/-! ## The unfinished runs of a list -/

/-- A list without unfinished runs stays as it is, whatever the change is. -/
theorem withUnfinished_of_finished (change : Nat → Run → Run) (runs : List Run)
    (finished : ∀ run ∈ runs, run.status.inProgress = false) :
    withUnfinished change runs = runs := by
  refine (List.map_congr_left fun (run, place) member => ?_).trans (List.zipIdx_map_fst 0 runs)
  have done := finished run (List.fst_mem_of_mem_zipIdx member)
  simp [done]

/-- What stands in a list with its unfinished runs changed stood there before, or it is
    what the change makes of an unfinished run in its place. -/
theorem mem_withUnfinished (change : Nat → Run → Run) (runs : List Run) (changed : Run)
    (member : changed ∈ withUnfinished change runs) :
    ∃ run ∈ runs, ∃ place,
      changed = if run.status.inProgress then change place run else run := by
  obtain ⟨placed, given, rfl⟩ := List.mem_map.mp member
  exact ⟨placed.1, List.fst_mem_of_mem_zipIdx given, placed.2, rfl⟩

/-- What the change keeps of each run is kept of the list, place by place. The change may
    depend on the place. -/
theorem map_withUnfinished {α : Type} (view : Run → α) (change : Nat → Run → Run)
    (runs : List Run) (keeps : ∀ place run, view (change place run) = view run) :
    (withUnfinished change runs).map view = runs.map view := by
  conv_rhs => rw [← List.zipIdx_map_fst 0 runs]
  rw [withUnfinished, List.map_map, List.map_map]
  refine List.map_congr_left fun (run, place) _ => ?_
  simp only [Function.comp_apply]
  split
  · exact keeps place run
  · rfl

/-- Pairs that are joined before the change make no difference to what is read back
    behind it, if they make none to the change of each run. -/
theorem withUnfinished_joined (change : Nat → Run → Run) (runs : List Run)
    (keepsTexts : ∀ place (run : Run),
      (change place run.joined).joined = (change place run).joined) :
    (withUnfinished change (runs.map Run.joined)).map Run.joined =
      (withUnfinished change runs).map Run.joined := by
  rw [withUnfinished, withUnfinished, List.zipIdx_map, List.map_map, List.map_map, List.map_map]
  refine List.map_congr_left fun placed _ => ?_
  simp only [Function.comp_apply, Prod.map_fst, Prod.map_snd, id_eq]
  -- A run is unfinished with its pairs joined exactly if it is so without.
  have status : placed.1.joined.status = placed.1.status := rfl
  rw [status]
  split
  · exact keepsTexts placed.2 placed.1
  · exact placed.1.joined_joined

/-- The change concerns no run exactly if all of them are finished. Then nothing is written. -/
theorem changedRuns_eq_nil (change : Nat → Run → Run) (runs : List Run) :
    changedRuns change runs = [] ↔ ∀ run ∈ runs, run.status.inProgress = false := by
  rw [changedRuns, List.map_eq_nil_iff, List.filter_eq_nil_iff]
  constructor
  · intro none run member
    rw [← List.zipIdx_map_fst 0 runs] at member
    obtain ⟨placed, given, rfl⟩ := List.mem_map.mp member
    exact Bool.eq_false_iff.mpr (none placed given)
  · intro finished placed given
    exact Bool.eq_false_iff.mp (finished placed.1 (List.fst_mem_of_mem_zipIdx given))

/-- Nothing is written if all runs are finished, and otherwise the list with the
    unfinished ones changed. -/
theorem changeUnfinished_written (change : Nat → Run → Run) (runs : List Run) :
    ((∀ run ∈ runs, run.status.inProgress = false) ∧
      (changeUnfinished change runs).written = none) ∨
    ((∃ run ∈ runs, run.status.inProgress = true) ∧
      (changeUnfinished change runs).written = Document.ofRuns (withUnfinished change runs)) := by
  by_cases none : changedRuns change runs = []
  · refine Or.inl ⟨(changedRuns_eq_nil change runs).mp none, ?_⟩
    simp [changeUnfinished, none]
  · have unfinished := mt (changedRuns_eq_nil change runs).mpr none
    refine Or.inr ⟨?_, ?_⟩
    · simpa using unfinished
    · simp [changeUnfinished, none]

variable [NestingLimits]

/-- Runs that were read can be written with the unfinished ones changed, if these keep
    their places in their chains. -/
theorem save_withUnfinished (change : Nat → Run → Run) (document : Document)
    (keepsPlace : ∀ place run, (change place run).chainIndex = run.chainIndex) :
    save (withUnfinished change document.runs) =
      .ok (Document.ofRuns (withUnfinished change document.runs)) := by
  refine (save_eq_ok _ _).mpr ⟨fun changed given => ?_, rfl⟩
  obtain ⟨run, stored, place, rfl⟩ := mem_withUnfinished change document.runs changed given
  have short := document.runs_writable run stored
  split
  · rwa [writable, keepsPlace]
  · exact short

/-- The unfinished runs of a document that was written are changed in their places. What
    stands behind that is the document of the whole list, also where nothing is written. -/
theorem changeUnfinished_document (change : Nat → Run → Run) (runs : List Run)
    (document : Document) (saved : save runs = .ok document)
    (keepsPlace : ∀ place run, (change place run).chainIndex = run.chainIndex)
    (keepsTexts : ∀ place (run : Run),
      (change place run.joined).joined = (change place run).joined) :
    save (withUnfinished change runs) =
      .ok ((changeUnfinished change document.runs).document document) := by
  have alike : save (withUnfinished change runs) = save (withUnfinished change document.runs) := by
    refine save_congr _ _ ?_
    rw [runs_of_save runs document saved]
    exact (withUnfinished_joined change runs keepsTexts).symm
  rw [alike, Change.document]
  rcases changeUnfinished_written change document.runs with ⟨finished, none⟩ | ⟨_, written⟩
  · rw [none, withUnfinished_of_finished change _ finished, save_runs runs document saved]
    rfl
  · rw [written, save_withUnfinished change document keepsPlace]
    rfl

/-! ## Operations in sequence -/

/-- A question to the store. -/
inductive Question
  | get (id : Text)
  | newest (limit : Int)
  | latestOfThread (channel thread : Text)
  | latestOfChannel (channel : Text)
  | chain (channel thread : Text)
  | find (written : Text)

/-- What an operation yields. -/
inductive Answer
  | nothing
  | run (run : Run)
  | runs (runs : List Run)
  | found (run : Option Run)
  | count (count : Nat)

/-- The answer to a question about runs. -/
def Question.answer (runs : List Run) : Question → Answer
  | .get id => .found (get? runs id)
  | .newest limit => .runs (Store.newest runs limit)
  | .latestOfThread channel thread => .found (latestOfThread? runs channel thread)
  | .latestOfChannel channel => .found (latestOfChannel? runs channel)
  | .chain channel thread => .runs (Store.chain runs channel thread)
  | .find written => .found (find? runs written)

/-- What a question to the store comes to. All questions load the document, but for one
    after a run with nothing left of its name. -/
def Question.ask (document : Document) : Question → Except StoreError Answer
  | .find written => (search written document).map .found
  | question => (load document).map question.answer

/-- A change with its result as an answer. -/
def Change.answering {α : Type} (answer : α → Answer) (change : Change α) : Change Answer :=
  ⟨answer change.result, change.written⟩

/-- An operation on the store. -/
inductive Operation
  | setUp
  | create (defaultPrefix : Text) (creation : Creation)
  | update (id : Text) (changes : Table Json)
  | saveFeedback (id : Text) (feedback : Feedback)
  | failUnfinished (reason : Text) (clock : Nat → Text)
  | requeueUnfinished (reason : Text)
  | ask (question : Question)

namespace Operation

/-- What the operation comes to on a document. -/
def perform (document : Document) : Operation → Outcome Answer
  | .setUp => .ok ((Store.setUp document).answering fun _ => .nothing)
  | .create defaultPrefix creation =>
    (Store.create defaultPrefix creation document).map (·.answering .run)
  | .update id changes => (Store.update id changes document).map (·.answering .run)
  | .saveFeedback id feedback =>
    (Store.saveFeedback id feedback document).map (·.answering .run)
  | .failUnfinished reason clock =>
    (Store.failUnfinished reason clock document).map (·.answering .count)
  | .requeueUnfinished reason =>
    (Store.requeueUnfinished reason document).map (·.answering .runs)
  | .ask question => (question.ask document).map fun answer => ⟨answer, none⟩

/-- The document behind the operation. One that fails leaves it as it is. -/
def after (document : Document) (operation : Operation) : Document :=
  match operation.perform document with
  | .ok change => change.document document
  | .error _ => document

/-- The document behind operations in sequence. -/
def afterAll (document : Document) (operations : List Operation) : Document :=
  operations.foldl after document

/-- A question leaves the document as it is, whether it comes to an answer or not. Nothing is
    written for it. -/
theorem after_ask (document : Document) (question : Question) :
    after document (.ask question) = document := by
  rw [after, perform]
  cases question.ask document <;> rfl

/-- Whether the operation is an update that gives an id. -/
def givesId : Operation → Bool
  | .update _ changes => changes.any (·.1 == "id")
  | _ => false

end Operation

end AgentRuns.Store
