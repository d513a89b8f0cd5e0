import AgentRuns.Proofs.Json.RoundTrip
import AgentRuns.Store.Basic
import Mathlib.Data.List.ReduceOption

/-!
# Runs written and read

A run that is written is read back with the pairs joined in each of its texts, and
as it was if its texts are characters alone. Its fields then are the fields of the
run with the pairs joined, under the same keys. All that a run needs for this is a
place in its chain that can be written, and room for its two levels.
-/

namespace AgentRuns

/-! ## Joining the texts of a run -/

namespace Text

/-- A text of the library has nothing to join, since a string is made of characters and holds
    no half of a pair. -/
theorem joined_ofString (string : String) : joined (ofString string) = ofString string := by
  refine joined_of_whole _ fun c member => ?_
  obtain ⟨_, _, rfl⟩ := List.mem_map.mp member
  rfl

/-- Optional texts of characters have nothing to join. Of a row of optional texts those that
    are there are looked at, so one condition on all texts of a record serves each of its
    fields. -/
theorem map_joined_of_whole (contents : List (Option Text))
    (whole : ∀ text ∈ contents.reduceOption, ∀ c ∈ text, c.isHalf = false)
    (content : Option Text) (member : content ∈ contents) : content.map joined = content := by
  cases content with
  | none => rfl
  | some content =>
    have given := List.reduceOption_mem_iff.mpr member
    rw [Option.map_some, content.joined_of_whole (whole content given)]

end Text

namespace Feedback

/-- The texts of some feedback. -/
def texts (feedback : Feedback) : List Text :=
  feedback.date :: [feedback.note, feedback.author].reduceOption

/-- The feedback with the pairs joined in its texts. -/
def joined (feedback : Feedback) : Feedback :=
  { feedback with
    note := feedback.note.map Text.joined
    author := feedback.author.map Text.joined
    date := feedback.date.joined }

/-- Feedback that has its pairs joined has no pairs left to join. Its rating and its time are
    met by the law for texts. -/
theorem joined_joined (feedback : Feedback) : feedback.joined.joined = feedback.joined := by
  simp [joined, Text.joined_joined, Function.comp_def]

/-- Feedback whose texts are characters alone has nothing to join. The rating is no text and
    cannot be touched. -/
theorem joined_of_whole (feedback : Feedback)
    (whole : ∀ text ∈ feedback.texts, ∀ c ∈ text, c.isHalf = false) :
    feedback.joined = feedback := by
  have date := feedback.date.joined_of_whole (whole _ List.mem_cons_self)
  have optional := Text.map_joined_of_whole [feedback.note, feedback.author] fun text member =>
    whole text (List.mem_cons_of_mem _ member)
  rw [joined, date, optional feedback.note (by simp), optional feedback.author (by simp)]

end Feedback

namespace Run

/-- The texts that every run has. -/
def ownTexts (run : Run) : List Text :=
  [run.id, run.repoSlug, run.task, run.baseBranch, run.branchName, run.requestedBy,
    run.channelId, run.threadTs, run.createdAt]

/-- The texts that a run may have. -/
def optionalTexts (run : Run) : List (Option Text) :=
  [run.startedAt, run.finishedAt, run.logsPath, run.statusMessageTs, run.commitSha, run.prUrl,
    run.error, run.parentRunId, run.rootRunId, run.parentBranchName, run.feedbackNote]

/-- All texts of a run, the names of its files and its feedback's texts too. -/
def texts (run : Run) : List Text :=
  run.ownTexts ++ run.optionalTexts.reduceOption ++ run.changedFiles ++
    run.feedback.toList.flatMap Feedback.texts

/-- The run with the pairs joined in its texts. -/
def joined (run : Run) : Run :=
  { run with
    id := run.id.joined
    repoSlug := run.repoSlug.joined
    task := run.task.joined
    baseBranch := run.baseBranch.joined
    branchName := run.branchName.joined
    requestedBy := run.requestedBy.joined
    channelId := run.channelId.joined
    threadTs := run.threadTs.joined
    createdAt := run.createdAt.joined
    startedAt := run.startedAt.map Text.joined
    finishedAt := run.finishedAt.map Text.joined
    logsPath := run.logsPath.map Text.joined
    statusMessageTs := run.statusMessageTs.map Text.joined
    commitSha := run.commitSha.map Text.joined
    changedFiles := run.changedFiles.map Text.joined
    prUrl := run.prUrl.map Text.joined
    feedback := run.feedback.map Feedback.joined
    error := run.error.map Text.joined
    parentRunId := run.parentRunId.map Text.joined
    rootRunId := run.rootRunId.map Text.joined
    parentBranchName := run.parentBranchName.map Text.joined
    feedbackNote := run.feedbackNote.map Text.joined }

/-- A run that has its pairs joined has no pairs left to join. So reading a run that was
    written and read changes nothing more of it. -/
theorem joined_joined (run : Run) : run.joined.joined = run.joined := by
  simp [joined, Text.joined_joined, Function.comp_def, Feedback.joined_joined]

/-- A run whose texts are characters alone has nothing to join. Every text of the run is asked
    for, those of its feedback and its list of files among them. -/
theorem joined_of_whole (run : Run)
    (whole : ∀ text ∈ run.texts, ∀ c ∈ text, c.isHalf = false) : run.joined = run := by
  simp only [texts, List.mem_append] at whole
  have own (content : Text) (member : content ∈ run.ownTexts) : content.joined = content :=
    content.joined_of_whole (whole content (Or.inl (Or.inl (Or.inl member))))
  have optional := Text.map_joined_of_whole run.optionalTexts fun text member =>
    whole text (Or.inl (Or.inl (Or.inr member)))
  have files : run.changedFiles.map Text.joined = run.changedFiles :=
    (List.map_congr_left fun content member =>
      content.joined_of_whole (whole content (Or.inl (Or.inr member)))).trans (List.map_id _)
  have feedback : run.feedback.map Feedback.joined = run.feedback := by
    cases given : run.feedback with
    | none => rfl
    | some feedback =>
      rw [Option.map_some, feedback.joined_of_whole fun text member =>
        whole text (Or.inr (by simpa [given] using member))]
  simp only [joined, files, feedback]
  congr 1 <;> first
    | exact own _ (by simp [ownTexts])
    | exact optional _ (by simp [optionalTexts])

end Run

/-! ## The fields of a run -/

/-- An optional text is written as null or as the text, and joining goes to the text either
    way. -/
theorem Json.joined_ofText? (content : Option Text) :
    (Json.ofText? content).joined = Json.ofText? (content.map Text.joined) := by
  cases content <;> rfl

/-- A list of texts is joined item by item. No item becomes anything but a text. -/
theorem Json.joined_texts (contents : List Text) :
    Json.joined (.list (contents.map Json.string)) =
      .list ((contents.map Text.joined).map Json.string) := by
  rw [Json.joined, joinedItems_eq, List.map_map, List.map_map]
  rfl

/-- An optional text is read back from what is written, whether it is there or not. -/
theorem Json.storable_ofText? (content : Option Text) : (Json.ofText? content).Storable := by
  cases content with
  | none => exact .word "null" .null (by simp [Json.words])
  | some content => exact .string content

namespace Feedback

/-- Joining the pairs of what is written for feedback is writing the feedback with its pairs
    joined. Its keys have none. -/
theorem toJson_joined (feedback : Feedback) : feedback.toJson.joined = feedback.joined.toJson := by
  have rating : feedback.rating.name.joined = feedback.rating.name := by
    cases feedback.rating <;> rfl
  simp only [toJson, Json.joined, Json.joinedFields, Json.joined_ofText?, Text.joined_ofString,
    rating]
  rfl

/-- Feedback is read back from what is written for it. No condition is needed, since it has no
    number. -/
theorem toJson_storable (feedback : Feedback) : feedback.toJson.Storable := by
  refine .object _ ?_ ?_
  · simp only [List.forall_mem_cons, List.not_mem_nil, false_implies, implies_true, and_true]
    exact ⟨.string _, Json.storable_ofText? _, Json.storable_ofText? _, .string _⟩
  · simp only [List.map_cons, List.map_nil, Text.joined_ofString]
    decide

/-- Feedback has one level, since its fields are texts. The bound holds whatever the texts
    say: brackets in a text open nothing. -/
theorem nesting_toJson_le (feedback : Feedback) : feedback.toJson.nesting ≤ 1 := by
  have optional (content : Option Text) : (Json.ofText? content).nesting ≤ 0 := by
    cases content <;> exact Nat.le_refl 0
  refine (Json.nesting_object_le _ 1).mpr ⟨0, rfl, ?_⟩
  simp only [List.forall_mem_cons, optional, Json.nesting, Nat.le_refl, List.not_mem_nil,
    false_implies, implies_true, and_self]

end Feedback

namespace Run

/-- The keys of a stored run. -/
def keys : List Text :=
  ["id", "status", "phase", "repoSlug", "task", "baseBranch", "branchName", "requestedBy",
    "channelId", "threadTs", "createdAt", "startedAt", "finishedAt", "logsPath",
    "statusMessageTs", "commitSha", "changedFiles", "prUrl", "feedback", "error",
    "parentRunId", "rootRunId", "chainIndex", "parentBranchName", "feedbackNote"]

/-- The keys of a run are distinct, so what is written for a run names each field once. -/
theorem keys_nodup : keys.Nodup := by decide +kernel

/-- Every run is written with the same keys in the same order, whatever its fields hold. -/
theorem fields_keys (run : Run) : run.fields.map Prod.fst = keys := rfl

/-- The fields of a run with the pairs joined are its fields with the pairs joined. The keys
    are the library's own and have nothing to join. -/
theorem fields_joined (run : Run) : Json.joinedFields run.fields = run.joined.fields := by
  have status : run.status.name.joined = run.status.name := by
    cases run.status <;> rfl
  have phase : (run.phase.map RunPhase.name).map Text.joined = run.phase.map RunPhase.name := by
    rcases run.phase with _ | phase
    · rfl
    · cases phase <;> rfl
  have feedback : ((run.feedback.map Feedback.toJson).getD .null).joined =
      ((run.feedback.map Feedback.joined).map Feedback.toJson).getD .null := by
    cases run.feedback with
    | none => rfl
    | some feedback => exact feedback.toJson_joined
  simp only [fields, Json.joinedFields, Json.joined_ofText?, Text.joined_ofString, phase,
    feedback, Json.joined_texts]
  simp only [Json.joined, status]
  rfl

/-- Joining the pairs changes the values of the fields and no key. This is the form in which a
    look-up under a key meets the fields. -/
theorem fields_map_joined (run : Run) :
    (run.fields.map fun field => (field.1, field.2.joined)) = run.joined.fields := by
  rw [← fields_joined, Json.joinedFields_eq]
  refine List.map_congr_left fun field member => ?_
  have plain : ∀ key ∈ keys, key.joined = key := by
    simp only [keys, List.forall_mem_cons, Text.joined_ofString, List.not_mem_nil,
      false_implies, implies_true, and_true]
  rw [plain field.1 (run.fields_keys ▸ List.mem_map_of_mem member)]

/-- A field of a run with the pairs joined is the field with its pairs joined, whichever field
    is asked for. A key that is no field's has no value on either side. -/
theorem get?_fields_joined (run : Run) (key : Text) :
    run.joined.fields.get? key = (run.fields.get? key).map Json.joined := by
  rw [← fields_map_joined, Table.get?_map]

/-- A run whose number can be written is read back from what is written. Its place in its
    chain is its only number, so no other condition is needed. -/
theorem toJson_storable (run : Run) (writable : Store.writable run = true) :
    run.toJson.Storable := by
  refine .object _ ?_ ?_
  · have feedback : ((run.feedback.map Feedback.toJson).getD .null).Storable := by
      cases run.feedback with
      | none => exact .word "null" .null (by simp [Json.words])
      | some feedback => exact feedback.toJson_storable
    have files : Json.Storable (.list (run.changedFiles.map Json.string)) := by
      refine .list _ fun item member => ?_
      obtain ⟨content, _, rfl⟩ := List.mem_map.mp member
      exact .string content
    simp only [fields, List.forall_mem_cons, List.not_mem_nil, false_implies, implies_true,
      and_true]
    refine ⟨.string _, .string _, ?_, .string _, .string _, .string _, .string _, .string _,
      .string _, .string _, .string _, ?_, ?_, ?_, ?_, ?_, files, ?_, feedback, ?_, ?_, ?_,
      .int _ writable, ?_, ?_⟩ <;> exact Json.storable_ofText? _
  · have keys : run.fields.map (fun field => field.1.joined) = keys := by
      simp only [fields, List.map_cons, List.map_nil, Text.joined_ofString]
      rfl
    rw [keys]
    exact keys_nodup

/-- Joining the pairs of what is written for a run is writing the run with its pairs joined. -/
theorem toJson_joined (run : Run) : run.toJson.joined = run.joined.toJson := by
  rw [toJson, Json.joined, fields_joined, toJson]

/-- A run has two levels at most. Its list of files and its feedback open the second, and
    nothing stands in them that opens a third. -/
theorem nesting_toJson_le (run : Run) : run.toJson.nesting ≤ 2 := by
  have optional (content : Option Text) : (Json.ofText? content).nesting ≤ 1 := by
    cases content <;> exact Nat.zero_le 1
  have files : (Json.list (run.changedFiles.map Json.string)).nesting ≤ 1 := by
    refine (Json.nesting_list_le _ 1).mpr ⟨0, rfl, fun item member => ?_⟩
    obtain ⟨content, _, rfl⟩ := List.mem_map.mp member
    exact Nat.le_refl 0
  have feedback : ((run.feedback.map Feedback.toJson).getD .null).nesting ≤ 1 := by
    cases run.feedback with
    | none => exact Nat.zero_le 1
    | some feedback => exact feedback.nesting_toJson_le
  refine (Json.nesting_object_le _ 2).mpr ⟨1, rfl, ?_⟩
  simp only [fields, List.forall_mem_cons, optional, files, feedback]
  simp [Json.nesting]

end Run

end AgentRuns
