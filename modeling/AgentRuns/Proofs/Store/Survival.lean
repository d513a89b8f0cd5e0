import AgentRuns.Proofs.Store.Transitions

/-!
# What survives a write

Every write replaces the whole storage file by the runs that were read from it, with
the change that was asked for. An entry that is no valid run was passed over when it
was read, so no write keeps it; and a file that does not decode is loaded as one
without runs, so the next run that is created replaces it. A file that nests too deeply
is not loaded, and what is said of writes is not said of it.

A valid entry survives as the run that it is: its place in the list and the values
of its fields stay. Fields that it did not give are written with the values that
stand for them, and what is no field of a run is not written.
-/

namespace AgentRuns

/-- The value that is written under a key of a valid entry is the one that is kept of
    what the entry gives there. -/
theorem Run.field?_of_check (entry : Json) (run : Run) (valid : (check entry).value? = some run)
    (key : Text) (isKey : key ∈ keys) (value : Json) (given : entry.field? key = some value) :
    run.toJson.field? key = validated? key value ∧
      (key ∉ convertedKeys → validated? key value = some value) := by
  cases entry with
  | object fields =>
    have taken : Slot.takeAll? slots fields = some run.fields := by
      rw [← value?_checkFields, show (checkFields fields).value? = some run from valid]
      rfl
    have slotKeys : slots.map (·.key) = keys := rfl
    obtain ⟨slot, member, here⟩ := List.mem_map.mp (slotKeys ▸ isKey)
    cases found : slots.find? (·.key == key) with
    | none => exact absurd (beq_iff_eq.mpr here) (List.find?_eq_none.mp found slot member)
    | some first =>
      have firstKey : first.key = key := by simpa using List.find?_some found
      have firstMember := List.mem_of_find?_eq_some found
      have value? : first.take? fields = first.keep? value :=
        first.take?_of_some fields value (by rw [firstKey]; exact given)
      constructor
      · rw [validated?, found, Option.bind_some, ← value?]
        have under := Slot.get?_takeAll? slots fields run.fields taken key
        rwa [found, Option.bind_some] at under
      · intro notConverted
        have all := (Slot.takeAll?_isSome slots fields).mp (by rw [taken]; rfl) first firstMember
        rw [value?] at all
        obtain ⟨kept, keeps⟩ := Option.isSome_iff_exists.mp all
        rw [validated?, found, Option.bind_some, keeps,
          slots_exact first firstMember (firstKey ▸ notConverted) value kept keeps]
  | _ => cases given

namespace Store

/-- The entries that are written for a list of runs. -/
def writtenEntries (runs : List Run) : List Json := runs.map fun run => run.joined.toJson

/-- The entries of a document that was written are those that were written for its runs.
    Nothing else stands in the list. -/
theorem entries_of_save [NestingLimits] (runs : List Run) (document : Document)
    (saved : save runs = .ok document) : document.entries = .ok (writtenEntries runs) := by
  obtain ⟨writable, rfl⟩ := (save_eq_ok runs document).mp saved
  rw [Document.entries_ofRuns runs writable, List.map_map]
  rfl

/-- What operations keep of a document, whatever it holds. -/
structure KeepsValidEntries [NestingLimits] (document : Document) : Prop where
  /-- An operation that succeeds leaves the document as it is, because it has nothing to
      write, or it leaves the entries of the runs that it makes of those that it read. -/
  written : ∀ (operation : Operation) (change : Change Answer),
    operation.perform document = .ok change →
      (operation.Spares document ∧ change.document document = document) ∨
        ∃ others, operation.Rewrites document.runs others ∧
          (change.document document).entries = .ok (writtenEntries others)
  /-- Runs that were read and are not changed are written as they were read. -/
  unchanged : writtenEntries document.runs = document.runs.map Run.toJson
  /-- A valid entry is read and written with the values that it gives for the fields of
      a run. Only feedback and the place in a chain take the form that they are kept in. -/
  valued : ∀ entry run, (Run.check entry).value? = some run → ∀ key ∈ Run.keys, ∀ value,
    entry.field? key = some value →
      run.toJson.field? key = Run.validated? key value ∧
        (key ∉ Run.convertedKeys → Run.validated? key value = some value)
  /-- A file that is loaded without runs is replaced by the first run that is created. -/
  replaced : document.load = .ok [] → ∀ defaultPrefix creation,
    (Operation.after document (.create defaultPrefix creation)).entries =
      .ok (writtenEntries [creation.run defaultPrefix []])
  /-- No other operation writes to a file in which no run can be read. -/
  spared : document.runs = [] → document.isSome = true → ∀ operation : Operation,
    (∀ defaultPrefix creation, operation ≠ .create defaultPrefix creation) →
      operation.after document = document

/-- A created run without runs before it begins a chain and can be written. Its place is 0. -/
theorem writable_created (defaultPrefix : Text) (creation : Creation) :
    writable (creation.run defaultPrefix []) = true := by
  have first : (creation.run defaultPrefix []).chainIndex = 0 := by
    simp [Creation.run]
  rw [writable, first]
  decide

/-- Where a document is loaded without runs, a created run is all that is written. What the
    document held before is gone. -/
theorem after_first_create [NestingLimits] (document : Document) (noRuns : document.load = .ok [])
    (defaultPrefix : Text) (creation : Creation) :
    save [creation.run defaultPrefix []] =
      .ok (Operation.after document (.create defaultPrefix creation)) := by
  have none := Document.runs_of_load document [] noRuns
  have short : writable (creation.run defaultPrefix document.runs) = true := by
    rw [none]
    exact writable_created defaultPrefix creation
  have saved := Operation.after_create document (document.loads_of_load [] noRuns)
    defaultPrefix creation short
  rwa [none, List.nil_append] at saved

/-- Every write keeps the valid entries, and nothing else. The parts rest on what is read back
    of a written document. -/
theorem writes_keep_valid_entries [NestingLimits] (document : Document) :
    KeepsValidEntries document where
  written operation change ok := by
    rcases Operation.perform_cases document operation change ok with
      ⟨spares, none⟩ | ⟨others, rewrites, saved⟩
    · refine Or.inl ⟨spares, ?_⟩
      unfold Change.document
      rw [none]
      rfl
    · refine Or.inr ⟨others, rewrites, ?_⟩
      rw [change.document_of_save document others saved]
      exact entries_of_save others _ saved
  unchanged :=
    List.map_congr_left fun run member =>
      congrArg Run.toJson (document.joined_of_mem_runs run member)
  valued := Run.field?_of_check
  replaced noRuns defaultPrefix creation :=
    entries_of_save _ _ (after_first_create document noRuns defaultPrefix creation)
  spared noRuns there operation noCreation := by
    rcases operation.after_cases document with same | ⟨others, rewrites, saved⟩
    · exact same
    · cases rewrites with
      | setUp _ _ =>
        rw [Operation.after, Operation.perform, setUp, if_pos there]
        rfl
      | create _ defaultPrefix creation => exact absurd rfl (noCreation defaultPrefix creation)
      | update splits | saveFeedback splits =>
        have whole := splits.whole
        rw [noRuns] at whole
        exact absurd whole.symm
          (List.append_ne_nil_of_right_ne_nil _ (List.cons_ne_nil _ _))
      | failUnfinished _ _ _ unfinished | requeueUnfinished _ _ unfinished =>
        obtain ⟨run, member, _⟩ := unfinished
        rw [noRuns] at member
        cases member

/-- A file with one entry, which lacks fields of a run. -/
def damagedFile : Document :=
  some (Utf8.encode "\x7b\"runs\": [\x7b\"id\": \"broken\"\x7d]\x7d")

/-- A file that does not decode. -/
def brokenFile : Document := some (Utf8.encode "\x7bnot json")

/-- A run that is created. -/
def someCreation : Creation where
  request :=
    { repoSlug := "acme/site", task := "Fix it", baseBranch := "main", requestedBy := "U1",
      channelId := "C1", threadTs := "1.5" }
  id := "a"
  now := "2024-01-01"

/-- A create that succeeds loses an entry that is no valid run, and replaces a file that
    does not decode by what it leaves where there is no file. -/
theorem invalid_entry_is_lost :
    (∃ entries later,
      damagedFile.entries = .ok entries ∧
      (Operation.after damagedFile (.create "agent" someCreation)).entries = .ok later ∧
      ∃ entry ∈ entries, entry ∉ later) ∧
    brokenFile.decoded = .ok none ∧
      Operation.after brokenFile (.create "agent" someCreation) =
        Operation.after none (.create "agent" someCreation) := by
  have damagedRuns : damagedFile.load = .ok [] := by decide +kernel
  have brokenRuns : brokenFile.load = .ok [] := by decide +kernel
  have lacking : damagedFile.entries.map (·.map fun entry => entry.field? "repoSlug" |>.isNone) =
      .ok [true] := by decide +kernel
  have undecoded : brokenFile.decoded.map Option.isNone = .ok true := by decide +kernel
  have onDamaged := after_first_create damagedFile damagedRuns "agent" someCreation
  have onBroken := after_first_create brokenFile brokenRuns "agent" someCreation
  have onNone := after_first_create none rfl "agent" someCreation
  refine ⟨?_, ?_, ?_⟩
  · obtain ⟨entries, given, alone⟩ := ok_of_map _ _ _ lacking
    obtain ⟨entry, rfl, lacks⟩ := List.map_eq_singleton_iff.mp alone
    refine ⟨[entry], _, given, entries_of_save _ _ onDamaged, entry, List.mem_singleton_self _, ?_⟩
    -- What is written gives every field of a run.
    intro kept
    rw [List.mem_singleton.mp kept] at lacks
    exact absurd lacks (by decide)
  · obtain ⟨decoded, read, isNone⟩ := ok_of_map _ _ _ undecoded
    rw [read, Option.isNone_iff_eq_none.mp isNone]
  · exact Except.ok.inj (onBroken.symm.trans onNone)

end Store

end AgentRuns
