import AgentRuns.Proofs.Run.Amending
import AgentRuns.Proofs.Run.Joined

/-!
# Documents written and read

The document that is written for a list of runs is read back as these runs, in this
order, with the pairs joined in their texts. Runs whose texts are characters alone
are read back as they were. Pairs make no other difference: lists of runs that are
alike with the pairs joined have one document.

Such a document has four levels at most, and there is always room for four, so it never
nests too deeply to be loaded.
-/

namespace AgentRuns

namespace Document

/-- What is written for a list of runs is read back. The records are read field by field. -/
theorem toJson_readsAs (runs : List Run) (writable : ∀ run ∈ runs, Store.writable run = true) :
    Json.ReadsAs (toJson runs) (toJson (runs.map Run.joined)) := by
  have list : Json.Storable (.list (runs.map Run.toJson)) := by
    refine .list _ fun item member => ?_
    obtain ⟨run, given, rfl⟩ := List.mem_map.mp member
    exact run.toJson_storable (writable run given)
  have storable : (toJson runs).Storable := by
    refine .object _ ?_ (by simp)
    simpa using list
  have joined : (toJson runs).joined = toJson (runs.map Run.joined) := by
    simp only [toJson, Json.joined, Json.joinedFields, Json.joinedItems_eq, Text.joined_ofString,
      List.map_map, Function.comp_def, Run.toJson_joined]
  exact joined ▸ storable.readsAs

/-- The value that is written for a list of runs has four levels at most. A list of changed
    files or feedback is the innermost one. -/
theorem nesting_toJson_le (runs : List Run) : (toJson runs).nesting ≤ 4 := by
  refine (Json.nesting_object_le _ 4).mpr ⟨3, rfl, fun field member => ?_⟩
  obtain rfl := List.mem_singleton.mp member
  refine (Json.nesting_list_le _ 3).mpr ⟨2, rfl, fun item given => ?_⟩
  obtain ⟨run, _, rfl⟩ := List.mem_map.mp given
  exact run.nesting_toJson_le

section

variable [NestingLimits]

/-- The entries of a written document are the runs with their pairs joined. Its octets decode
    to the text that was written. -/
theorem entries_ofRuns (runs : List Run) (writable : ∀ run ∈ runs, Store.writable run = true) :
    (ofRuns runs).entries = .ok ((runs.map Run.joined).map Run.toJson) := by
  have reads := toJson_readsAs runs writable
  have text : (ofRuns runs).bind Bytes.text? = some (Json.writeAscii (toJson runs)) := reads.text?
  have fits : (toJson runs).nesting ≤ NestingLimits.document :=
    (nesting_toJson_le runs).trans NestingLimits.four_le_document
  rw [entries, decoded, text]
  simp only [Json.readStrict, reads.read_eq false NestingLimits.document fits]
  rfl

/-- A written document is loaded as the runs with their pairs joined. Each of its entries
    passes its check. -/
theorem load_ofRuns (runs : List Run) (writable : ∀ run ∈ runs, Store.writable run = true) :
    (ofRuns runs).load = .ok (runs.map Run.joined) := by
  have valid (run : Run) : (Run.check run.toJson).value? = some run := by
    rw [Run.check, Run.toJson, Check.object, Run.checkFields_fields]
    rfl
  rw [load, entries_ofRuns runs writable, Except.map, List.filterMap_map]
  simp only [Function.comp_def, valid, List.filterMap_some]

/-- A document that is loaded holds the runs that it is loaded as. -/
theorem runs_of_load (document : Document) (loaded : List Run)
    (load : document.load = .ok loaded) : document.runs = loaded := by
  rw [runs, load]
  rfl

/-- The runs of a written document are the runs with their pairs joined. It can always be
    loaded. -/
theorem runs_ofRuns (runs : List Run) (writable : ∀ run ∈ runs, Store.writable run = true) :
    (ofRuns runs).runs = runs.map Run.joined :=
  runs_of_load _ _ (load_ofRuns runs writable)

end

/-- Pairs make no difference to what is written. Two halves are written with the escapes of
    their character. -/
theorem ofRuns_joined (runs : List Run) (writable : ∀ run ∈ runs, Store.writable run = true) :
    ofRuns (runs.map Run.joined) = ofRuns runs := by
  rw [ofRuns, Json.writeAscii, (toJson_readsAs runs writable).alike, ofRuns, Json.writeAscii]

end Document

namespace Store

/-- A list of runs is written if all their numbers can be. The printing of a number with too
    many digits is the one way to fail. -/
theorem save_eq_ok (runs : List Run) (document : Document) :
    save runs = .ok document ↔
      (∀ run ∈ runs, writable run = true) ∧ Document.ofRuns runs = document := by
  unfold save
  split
  · rename_i all
    rw [List.all_eq_true] at all
    exact ⟨fun same => ⟨all, Except.ok.inj same⟩, fun ⟨_, same⟩ => congrArg _ same⟩
  · rename_i notAll
    rw [List.all_eq_true] at notAll
    simp [notAll]

/-- A document that was written holds the runs that were written. This is what all laws about
    operations in sequence rest on. -/
theorem runs_of_save [NestingLimits] (runs : List Run) (document : Document)
    (saved : save runs = .ok document) :
    document.runs = runs.map Run.joined := by
  obtain ⟨writable, rfl⟩ := (save_eq_ok runs document).mp saved
  exact Document.runs_ofRuns runs writable

/-- Runs that are alike with their pairs joined have one document. Whether it can be written
    depends on their places only. -/
theorem save_joined (runs : List Run) : save (runs.map Run.joined) = save runs := by
  have same : (runs.map Run.joined).all writable = runs.all writable := by
    rw [List.all_map]
    rfl
  unfold save
  rw [same]
  split
  · rename_i all
    rw [List.all_eq_true] at all
    rw [Document.ofRuns_joined runs all]
  · rfl

/-- Lists that are alike with their pairs joined are written alike, or neither can be written. -/
theorem save_congr (runs others : List Run) (alike : runs.map Run.joined = others.map Run.joined) :
    save runs = save others := by
  rw [← save_joined runs, alike, save_joined]

/-- Runs whose texts are characters alone, and whose places in their chains can be
    written, are read back from what is written of them: the same runs in the same
    order. -/
theorem saved_runs_are_read_back [NestingLimits] (runs : List Run)
    (whole : ∀ run ∈ runs, ∀ text ∈ run.texts, ∀ c ∈ text, c.isHalf = false)
    (writable : ∀ run ∈ runs, writable run = true) :
    ∃ document, save runs = .ok document ∧ document.runs = runs := by
  have saved : save runs = .ok (Document.ofRuns runs) :=
    (save_eq_ok runs _).mpr ⟨writable, rfl⟩
  have same : runs.map Run.joined = runs :=
    (List.map_congr_left fun run member => run.joined_of_whole (whole run member)).trans
      (List.map_id _)
  exact ⟨Document.ofRuns runs, saved, (runs_of_save runs _ saved).trans same⟩

/-- A run whose texts hold what writing escapes: controls, quotes, backslashes, line
    separators, and characters of two code units. -/
def awkwardRun : Run where
  id := "quote \" and \\ and /"
  status := .failed
  phase := none
  repoSlug := "\x00\x08\t\n\x0b\x0c\r\x1f\x7f"
  task := "\u0085 \u2028 \u2029 \ufeff \uffff"
  baseBranch := "𐀀 🪿"
  branchName := ""
  requestedBy := "\\ud83e\\udebf"
  channelId := "\x7b\"runs\": []\x7d"
  threadTs := "null"
  createdAt := "1e400"
  startedAt := some ""
  changedFiles := ["", "a\\b", "ä\n"]
  feedback := some ⟨.down, some "\"", none, "\x7f"⟩
  chainIndex := -Int.pow 10 4299

/-- Such a run is read back among others. It has texts of every kind that needs an escape. -/
theorem awkward_run_is_read_back :
    ∃ document, save [awkwardRun, { awkwardRun with feedback := none }] = .ok document ∧
      document.runs = [awkwardRun, { awkwardRun with feedback := none }] :=
  saved_runs_are_read_back [awkwardRun, { awkwardRun with feedback := none }]
    (by decide +kernel) (by decide +kernel)

end Store

end AgentRuns
