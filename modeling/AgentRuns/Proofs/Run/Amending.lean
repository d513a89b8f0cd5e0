import AgentRuns.Proofs.Table
import AgentRuns.Proofs.Run.Joined

/-!
# Runs amended

A run is checked field by field, and every field is kept or refused by what stands
under its key alone. A table of its fields says for each key what is kept of a value
there and what stands for a value that is missing; a run passes the check exactly if
every field is taken, and then its fields are the values that were taken.

A run itself passes the check unchanged. A run that is amended therefore keeps every
field that is not given anew, and has the checked value of every other one; whether
it can be amended depends on the values that are given and not on the run.
-/

namespace AgentRuns

namespace Checked

variable {α β γ : Type}

/-- What is made of a checked value and used behind it may as well be made at its use. -/
theorem value?_map_bind (f : α → β) (checked : Checked α) (next : β → Option γ) :
    (f <$> checked).value?.bind next = checked.value?.bind fun value => next (f value) := by
  cases checked <;> rfl

/-- Of two checks side by side the value is there if both values are. The complaints, which
    are gathered from both, are not looked at. -/
theorem value?_seq_bind (f : Checked (α → β)) (checked : Checked α) (next : β → Option γ) :
    (f <*> checked).value?.bind next =
      f.value?.bind fun f => checked.value?.bind fun value => next (f value) := by
  cases f <;> cases checked <;> rfl

/-- The step that complaints are reported under changes no value. -/
theorem value?_under (step : Text) (checked : Checked α) :
    (checked.under step).value? = checked.value? := by
  cases checked <;> rfl

end Checked

/-! ## Fields one by one -/

/-- A field: its key, what is kept of a value that stands there, if it is valid, and
    what stands for a value that is not there, if it need not be. -/
structure Slot where
  key : Text
  keep? : Json → Option Json
  absent? : Option Json

namespace Slot

variable {α β : Type}

/-- A field that must be there. -/
def required (key : Text) (check : Json → Checked α) (write : α → Json) : Slot :=
  ⟨key, fun value => (check value).value?.map write, none⟩

/-- A field with a value for when it is not there. -/
def optional (key : Text) (check : Json → Checked α) (otherwise : α) (write : α → Json) : Slot :=
  ⟨key, fun value => (check value).value?.map write, some (write otherwise)⟩

/-- What is taken for the field from a table. -/
def take? (slot : Slot) (fields : Table Json) : Option Json :=
  match fields.get? slot.key with
  | some value => slot.keep? value
  | none => slot.absent?

/-- A value that is given decides alone what is taken for the field, whatever stands for it
    where none is given. -/
theorem take?_of_some (slot : Slot) (fields : Table Json) (value : Json)
    (found : fields.get? slot.key = some value) : slot.take? fields = slot.keep? value := by
  rw [take?, found]

/-- What is taken for a field depends on the value under its key and on nothing else in the
    object. -/
theorem take?_congr (slot : Slot) (fields others : Table Json)
    (same : fields.get? slot.key = others.get? slot.key) :
    slot.take? fields = slot.take? others := by
  rw [take?, take?, same]

/-- A field that must be given is taken exactly if its check passes on the object. The check
    reports what the field lacks, and taking it does not. -/
theorem take?_required (fields : Table Json) (key : Text) (check : Json → Checked α)
    (write : α → Json) :
    (required key check write).take? fields =
      (Check.required fields key check).value?.map write := by
  simp only [take?, required, Check.required]
  cases fields.get? key with
  | none => rfl
  | some value =>
    exact congrArg (Option.map write) (Checked.value?_under key (check value)).symm

/-- A field that may be left out is taken exactly if its check passes on the object, and what
    stands for it is taken where it is left out. -/
theorem take?_optional (fields : Table Json) (key : Text) (check : Json → Checked α)
    (otherwise : α) (write : α → Json) :
    (optional key check otherwise write).take? fields =
      (Check.optional fields key check otherwise).value?.map write := by
  simp only [take?, optional, Check.optional]
  cases fields.get? key with
  | none => rfl
  | some value =>
    exact congrArg (Option.map write) (Checked.value?_under key (check value)).symm

/-- What is taken for all fields, under their keys, if something is taken for each. -/
def takeAll? (slots : List Slot) (fields : Table Json) : Option (Table Json) :=
  slots.mapM fun slot => (slot.take? fields).map (slot.key, ·)

/-- All fields are taken one by one, each followed by the rest. Whatever comes behind all of
    them may be moved behind the rest. -/
theorem takeAll?_cons (slot : Slot) (slots : List Slot) (fields : Table Json)
    (next : Table Json → Option β) :
    (takeAll? (slot :: slots) fields).bind next = (slot.take? fields).bind fun value =>
      (takeAll? slots fields).bind fun others => next ((slot.key, value) :: others) := by
  simp only [takeAll?, List.mapM_cons]
  cases slot.take? fields with
  | none => rfl
  | some value => cases slots.mapM fun slot => (slot.take? fields).map (slot.key, ·) <;> rfl

/-- A field that must be given is taken first, by its check, and the rest behind it. Applied
    from field to field this leads along the check of a whole record. -/
theorem takeAll?_required (key : Text) (check : Json → Checked α) (write : α → Json)
    (slots : List Slot) (fields : Table Json) (next : Table Json → Option β) :
    (takeAll? (required key check write :: slots) fields).bind next =
      (Check.required fields key check).value?.bind fun value =>
        (takeAll? slots fields).bind fun others => next ((key, write value) :: others) := by
  rw [takeAll?_cons, take?_required, Option.bind_map]
  rfl

/-- A field that may be left out is taken first, by its check, and the rest behind it. -/
theorem takeAll?_optional (key : Text) (check : Json → Checked α) (otherwise : α)
    (write : α → Json) (slots : List Slot) (fields : Table Json)
    (next : Table Json → Option β) :
    (takeAll? (optional key check otherwise write :: slots) fields).bind next =
      (Check.optional fields key check otherwise).value?.bind fun value =>
        (takeAll? slots fields).bind fun others => next ((key, write value) :: others) := by
  rw [takeAll?_cons, take?_optional, Option.bind_map]
  rfl

/-- All fields are taken if each of them is. Fields cannot stand in each other's way, since
    each is taken from the object that was given. -/
theorem takeAll?_isSome (slots : List Slot) (fields : Table Json) :
    (takeAll? slots fields).isSome = true ↔ ∀ slot ∈ slots, (slot.take? fields).isSome = true := by
  induction slots with
  | nil => simp [takeAll?]
  | cons slot slots inductionHypothesis =>
    have step := takeAll?_cons slot slots fields some
    rw [Option.bind_fun_some] at step
    rw [step, List.forall_mem_cons, ← inductionHypothesis]
    cases slot.take? fields with
    | none => simp
    | some value => cases takeAll? slots fields <;> simp

/-- The value under a key is what was taken for the field of the key. Where two fields have
    one key the first of them counts. -/
theorem get?_takeAll? (slots : List Slot) (fields taken : Table Json)
    (all : takeAll? slots fields = some taken) (key : Text) :
    taken.get? key = (slots.find? (·.key == key)).bind (·.take? fields) := by
  induction slots generalizing taken with
  | nil =>
    cases all
    rfl
  | cons slot slots inductionHypothesis =>
    have step := takeAll?_cons slot slots fields some
    rw [Option.bind_fun_some, all] at step
    obtain ⟨value, first, step⟩ := Option.bind_eq_some_iff.mp step.symm
    obtain ⟨others, rest, pair⟩ := Option.bind_eq_some_iff.mp step
    cases pair
    have behind := inductionHypothesis others rest
    by_cases here : slot.key = key
    · simp [Table.get?, here, first]
    · have elsewhere : (key == slot.key) = false := beq_false_of_ne fun same => here same.symm
      simpa [Table.get?, List.find?_cons, List.lookup_cons, here, elsewhere] using behind

end Slot

namespace Run

/-- The fields of a run. -/
def slots : List Slot :=
  [.required "id" Check.text .string,
    .optional "status" (Check.choice RunStatus.ofName?) .queued fun status =>
      .string status.name,
    .optional "phase" (Check.nullable (Check.choice RunPhase.ofName?)) (some .queued)
      fun phase => .ofText? (phase.map RunPhase.name),
    .required "repoSlug" Check.text .string,
    .required "task" Check.text .string,
    .required "baseBranch" Check.text .string,
    .required "branchName" Check.text .string,
    .required "requestedBy" Check.text .string,
    .required "channelId" Check.text .string,
    .required "threadTs" Check.text .string,
    .required "createdAt" Check.text .string,
    .optional "startedAt" Check.optionalText none .ofText?,
    .optional "finishedAt" Check.optionalText none .ofText?,
    .optional "logsPath" Check.optionalText none .ofText?,
    .optional "statusMessageTs" Check.optionalText none .ofText?,
    .optional "commitSha" Check.optionalText none .ofText?,
    .optional "changedFiles" (Check.list Check.text) [] fun files => .list (files.map .string),
    .optional "prUrl" Check.optionalText none .ofText?,
    .optional "feedback" (Check.nullable Feedback.check) none fun feedback =>
      (feedback.map Feedback.toJson).getD .null,
    .optional "error" Check.optionalText none .ofText?,
    .optional "parentRunId" Check.optionalText none .ofText?,
    .optional "rootRunId" Check.optionalText none .ofText?,
    .optional "chainIndex" Check.integer 0 .int,
    .optional "parentBranchName" Check.optionalText none .ofText?,
    .optional "feedbackNote" Check.optionalText none .ofText?]

/-- What is kept of a value that is given for the field of a key, if it is valid. -/
def validated? (key : Text) (value : Json) : Option Json :=
  (slots.find? (·.key == key)).bind (·.keep? value)

/-- A run passes the check if all its fields are taken, and then it has them as they
    were taken. -/
theorem value?_checkFields (fields : Table Json) :
    (checkFields fields).value?.map Run.fields = Slot.takeAll? slots fields := by
  rw [Option.map_eq_bind, ← Option.bind_fun_some (Slot.takeAll? slots fields), checkFields]
  iterate 24 rw [Checked.value?_seq_bind]
  rw [Checked.value?_map_bind, slots]
  -- Now both sides take one field after the other.
  iterate 25
    first | rw [Slot.takeAll?_required] | rw [Slot.takeAll?_optional]
    refine congrArg (Option.bind _) (funext fun _ => ?_)
  rfl

end Run

/-! ## Runs that pass -/

namespace Check

/-- A text that is there is kept. This holds of the empty text as well. -/
theorem required_text (fields : Table Json) (key content : Text)
    (found : fields.get? key = some (.string content)) :
    required fields key text = .valid content := by
  rw [required, found]
  rfl

/-- An optional text that is there is kept. Null was given for one that is none, so it counts
    as given. -/
theorem optional_text (fields : Table Json) (key : Text) (content : Option Text)
    (found : fields.get? key = some (.ofText? content)) :
    optional fields key optionalText none = .valid content := by
  rw [optional, found]
  cases content <;> rfl

/-- Texts are kept, whatever their positions. So a list of texts that was written passes the
    check, however long it is. -/
theorem itemsFrom_texts (position : Nat) (contents : List Text) :
    itemsFrom text position (contents.map .string) = .valid contents := by
  induction contents generalizing position with
  | nil => rfl
  | cons content contents inductionHypothesis =>
    rw [List.map_cons, itemsFrom, inductionHypothesis]
    rfl

end Check

/-- Feedback passes the check unchanged. What the dashboard writes is what it reads. -/
theorem Feedback.check_toJson (feedback : Feedback) :
    Feedback.check feedback.toJson = .valid feedback := by
  have rating (fields : Table Json)
      (found : fields.get? "rating" = some (.string feedback.rating.name)) :
      Check.required fields "rating" (Check.choice Rating.ofName?) = .valid feedback.rating := by
    rw [Check.required, found]
    cases feedback.rating <;> rfl
  have date (fields : Table Json) (found : fields.get? "at" = some (.string feedback.date)) :
      Check.optional fields "at" Check.text [] = .valid feedback.date := by
    rw [Check.optional, found]
    rfl
  rw [check, toJson, Check.object, checkFields, rating _ rfl,
    Check.optional_text _ "note" feedback.note rfl,
    Check.optional_text _ "by" feedback.author rfl, date _ rfl]
  rfl

namespace Run

/-- Checking looks at nothing but the values under the keys. The order in which an object
    gives them, and what it gives under other keys, makes no difference. -/
theorem checkFields_congr (fields others : Table Json)
    (same : ∀ key, fields.get? key = others.get? key) :
    checkFields fields = checkFields others := by
  simp only [checkFields, Check.required, Check.optional, same]

/-- A run passes the check unchanged. So a run that was written is never passed over when the
    document is read. -/
theorem checkFields_fields (run : Run) : checkFields run.fields = .valid run := by
  have text := Check.required_text run.fields
  have optional := Check.optional_text run.fields
  have status : Check.optional run.fields "status" (Check.choice RunStatus.ofName?) .queued =
      .valid run.status := by
    rw [Check.optional, show run.fields.get? "status" = some (.string run.status.name) from rfl]
    cases run.status <;> rfl
  have phase : Check.optional run.fields "phase"
      (Check.nullable (Check.choice RunPhase.ofName?)) (some .queued) = .valid run.phase := by
    rw [Check.optional,
      show run.fields.get? "phase" = some (.ofText? (run.phase.map RunPhase.name)) from rfl]
    rcases run.phase with _ | phase
    · rfl
    · cases phase <;> rfl
  have files : Check.optional run.fields "changedFiles" (Check.list Check.text) [] =
      .valid run.changedFiles := by
    rw [Check.optional,
      show run.fields.get? "changedFiles" = some (.list (run.changedFiles.map .string)) from rfl]
    exact congrArg (Checked.under _) (Check.itemsFrom_texts 0 run.changedFiles)
  have feedback : Check.optional run.fields "feedback" (Check.nullable Feedback.check) none =
      .valid run.feedback := by
    rw [Check.optional, show run.fields.get? "feedback" =
      some ((run.feedback.map Feedback.toJson).getD .null) from rfl]
    cases run.feedback with
    | none => rfl
    | some feedback =>
      exact congrArg (fun checked => Checked.under _ (some <$> checked)) feedback.check_toJson
  have place : Check.optional run.fields "chainIndex" Check.integer 0 = .valid run.chainIndex :=
    rfl
  rw [checkFields, text "id" run.id rfl, status, phase, text "repoSlug" run.repoSlug rfl,
    text "task" run.task rfl, text "baseBranch" run.baseBranch rfl,
    text "branchName" run.branchName rfl, text "requestedBy" run.requestedBy rfl,
    text "channelId" run.channelId rfl, text "threadTs" run.threadTs rfl,
    text "createdAt" run.createdAt rfl, optional "startedAt" run.startedAt rfl,
    optional "finishedAt" run.finishedAt rfl, optional "logsPath" run.logsPath rfl,
    optional "statusMessageTs" run.statusMessageTs rfl, optional "commitSha" run.commitSha rfl,
    files, optional "prUrl" run.prUrl rfl, feedback, optional "error" run.error rfl,
    optional "parentRunId" run.parentRunId rfl, optional "rootRunId" run.rootRunId rfl, place,
    optional "parentBranchName" run.parentBranchName rfl,
    optional "feedbackNote" run.feedbackNote rfl]
  rfl

/-- A run is told by the values of its fields. It is the check that tells it: two objects with
    the same values pass as the same run. -/
theorem eq_of_get?_fields (run other : Run)
    (same : ∀ key, run.fields.get? key = other.fields.get? key) : run = other := by
  have checked := checkFields_congr run.fields other.fields same
  rw [checkFields_fields, checkFields_fields] at checked
  exact Checked.valid.inj checked

/-- All fields of a run are taken as they are, since each of them passes its own check. -/
theorem takeAll?_fields (run : Run) : Slot.takeAll? slots run.fields = some run.fields := by
  rw [← value?_checkFields, checkFields_fields]
  rfl

end Run

/-! ## Amending -/

namespace Store

/-- A run is amended if the check passes. The amended run has the fields that are taken from
    the old ones with the given ones over them. -/
theorem amend_eq_ok (changes : Table Json) (run amended : Run) :
    amend changes run = .ok amended ↔
      Slot.takeAll? Run.slots (run.fields.overlay changes) = some amended.fields := by
  rw [← Run.value?_checkFields]
  unfold amend
  cases Run.checkFields (run.fields.overlay changes) with
  | valid checked =>
    constructor
    · intro same
      rw [Except.ok.inj same]
      rfl
    · intro same
      have alike : checked = amended := Run.eq_of_get?_fields checked amended fun key =>
        congrArg (Table.get? · key) (Option.some.inj same)
      exact congrArg _ alike
  | invalid issues =>
    constructor
    · intro impossible
      cases impossible
    · intro impossible
      exact absurd impossible.symm (Option.some_ne_none _)

/-- What is taken from a run that is written over is taken from the value that is
    given, and from the run where none is. -/
theorem take?_overlay (slot : Slot) (changes : Table Json) (run : Run) :
    slot.take? (run.fields.overlay changes) =
      match (Table.ofEntries changes).get? slot.key with
      | some value => slot.keep? value
      | none => slot.take? run.fields := by
  have under := Table.get?_overlay run.fields changes slot.key
  cases given : (Table.ofEntries changes).get? slot.key with
  | some value =>
    rw [given] at under
    exact slot.take?_of_some _ value under
  | none =>
    rw [given] at under
    exact slot.take?_congr _ _ under

/-- A field that is given anew has the checked value, and every other one is kept. Of a key
    that is given twice the last value counts, as in an object. -/
theorem amend_fields (changes : Table Json) (run amended : Run)
    (ok : amend changes run = .ok amended) (key : Text) :
    amended.fields.get? key =
      match (Table.ofEntries changes).get? key with
      | some value => Run.validated? key value
      | none => run.fields.get? key := by
  rw [Slot.get?_takeAll? _ _ _ ((amend_eq_ok changes run amended).mp ok) key,
    Slot.get?_takeAll? _ _ _ run.takeAll?_fields key]
  unfold Run.validated?
  cases found : Run.slots.find? (·.key == key) with
  | none => split <;> rfl
  | some slot =>
    have here : slot.key = key := by simpa using List.find?_some found
    rw [← here]
    exact take?_overlay slot changes run

/-- Whether a run can be amended depends on the values that are given alone. The fields that
    are kept pass their checks, because they are a run's. -/
theorem exists_amend (changes : Table Json) (run : Run) :
    (∃ amended, amend changes run = .ok amended) ↔
      ∀ slot ∈ Run.slots, ∀ value, (Table.ofEntries changes).get? slot.key = some value →
        (slot.keep? value).isSome = true := by
  have all : (∃ amended, amend changes run = .ok amended) ↔
      (Slot.takeAll? Run.slots (run.fields.overlay changes)).isSome = true := by
    simp only [amend_eq_ok, ← Run.value?_checkFields]
    cases (Run.checkFields (run.fields.overlay changes)).value? with
    | some checked => exact ⟨fun _ => rfl, fun _ => ⟨checked, rfl⟩⟩
    | none => simp
  have kept : ∀ slot ∈ Run.slots, (slot.take? run.fields).isSome = true := by
    rw [← Slot.takeAll?_isSome, run.takeAll?_fields]
    rfl
  rw [all, Slot.takeAll?_isSome]
  refine forall₂_congr fun slot member => ?_
  rw [take?_overlay]
  cases (Table.ofEntries changes).get? slot.key with
  | none => simp [kept slot member]
  | some value => simp

end Store

end AgentRuns
