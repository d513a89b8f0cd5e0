import AgentRuns.Proofs.Json.Brackets
import AgentRuns.Proofs.Run.Reading
import AgentRuns.Proofs.Store.RoundTrip

/-!
# Documents that were read

A document is loaded as the runs that it holds, unless it nests too deeply. One that
holds some run was loaded, and so was every document that was written. A document that nests too
deeply has more brackets than there is room for.

A file is decoded to characters alone, so whatever it holds, the entries of its list
of runs are settled, and so are the runs that they are read as. Writing these runs
changes nothing of them, and nothing keeps them from being written.
-/

namespace AgentRuns

namespace Utf8

/-- What is decoded are characters. The octets of a half are refused. -/
theorem decode?_whole (bytes : Bytes) (text : Text) (decoded : decode? bytes = some text) :
    ∀ c ∈ text, c.isHalf = false := by
  rw [decode?] at decoded
  generalize decode bytes = parts at decoded
  induction parts generalizing text with
  | nil =>
    cases decoded
    exact List.forall_mem_nil _
  | cons part parts inductionHypothesis =>
    rw [List.mapM_cons] at decoded
    obtain ⟨first, firstDecoded, rest⟩ := Option.bind_eq_some_iff.mp decoded
    obtain ⟨others, othersDecoded, whole⟩ := Option.bind_eq_some_iff.mp rest
    cases whole
    refine List.forall_mem_cons.mpr ⟨?_, inductionHypothesis others othersDecoded⟩
    cases part with
    | char c =>
      cases firstDecoded
      rfl
    | damage => cases firstDecoded

end Utf8

/-- No line break is half a pair. So unifying them brings none in. -/
theorem Text.unifyBreaks_whole (text : Text) (whole : ∀ c ∈ text, c.isHalf = false) :
    ∀ c ∈ text.unifyBreaks, c.isHalf = false := by
  fun_induction unifyBreaks text with
  | case1 rest inductionHypothesis =>
    rw [List.forall_mem_cons, List.forall_mem_cons] at whole
    exact List.forall_mem_cons.mpr ⟨rfl, inductionHypothesis whole.2.2⟩
  | case2 rest _ inductionHypothesis =>
    rw [List.forall_mem_cons] at whole
    exact List.forall_mem_cons.mpr ⟨rfl, inductionHypothesis whole.2⟩
  | case3 c rest _ _ inductionHypothesis =>
    rw [List.forall_mem_cons] at whole
    exact List.forall_mem_cons.mpr ⟨whole.1, inductionHypothesis whole.2⟩
  | case4 => exact whole

namespace Document

variable [NestingLimits]

/-- The document is loaded as the runs that it holds: it does not nest too deeply. -/
def Loads (document : Document) : Prop := document.load = .ok document.runs

/-- A document is loaded, or a bracket in it opens a level too many. There is no third way to
    fail, since what cannot be decoded counts as no runs. -/
theorem loads_or_tooDeep (document : Document) :
    document.Loads ∨ ∃ bracket, document.load = .error bracket := by
  cases loaded : document.load with
  | ok runs => exact Or.inl (loaded.trans (congrArg Except.ok (runs_of_load _ _ loaded).symm))
  | error bracket => exact Or.inr ⟨bracket, rfl⟩

/-- What is loaded from a document is what it holds. The two are told apart by whether reading
    comes to an end. -/
theorem loads_of_load (document : Document) (runs : List Run) (loaded : document.load = .ok runs) :
    document.Loads := by
  rw [Loads, runs_of_load document runs loaded]
  exact loaded

/-- A document that nests too deeply is not loaded. The failure of reading is passed on. -/
theorem not_loads_of_tooDeep (document : Document) (bracket : Json.Bracket)
    (tooDeep : document.load = .error bracket) : ¬document.Loads := by
  intro loads
  rw [Loads, tooDeep] at loads
  cases loads

/-- A document that nests too deeply shows no run. It holds none for the laws that speak about
    its runs. -/
theorem runs_of_tooDeep (document : Document) (bracket : Json.Bracket)
    (tooDeep : document.load = .error bracket) : document.runs = [] := by
  rw [runs, tooDeep]
  rfl

/-- A document that has no more brackets than there is room for loads, whatever else is
    wrong with it. A file that is absent or is no text has none. -/
theorem loads_of_few_brackets (document : Document)
    (few : ∀ text, document.bind Bytes.text? = some text →
      Json.brackets text ≤ NestingLimits.document) : document.Loads := by
  rcases document.loads_or_tooDeep with loads | ⟨bracket, tooDeep⟩
  · exact loads
  · have failed : document.decoded = .error bracket := by
      rwa [load, map_eq_error, entries, map_eq_error] at tooDeep
    unfold decoded at failed
    split at failed
    · rename_i text textRead
      have refused := (Json.orNone_eq_error _ bracket).mp failed
      have many := Json.room_lt_brackets false _ text bracket refused
      exact absurd (few text textRead) (Nat.not_le.mpr many)
    · cases failed

/-- A document that holds a run was loaded. So the laws about a run that is held need not ask
    for loading. -/
theorem loads_of_mem (document : Document) (run : Run) (member : run ∈ document.runs) :
    document.Loads := by
  rcases document.loads_or_tooDeep with loads | ⟨bracket, tooDeep⟩
  · exact loads
  · rw [document.runs_of_tooDeep bracket tooDeep] at member
    cases member

/-- A run that a document holds is what one of its entries is read as. Entries that are not
    valid were passed over. -/
theorem exists_entry_of_mem (document : Document) (run : Run) (member : run ∈ document.runs) :
    ∃ entries, document.entries = .ok entries ∧
      ∃ entry ∈ entries, (Run.check entry).value? = some run := by
  have loads := document.loads_of_mem run member
  obtain ⟨entries, given, same⟩ := ok_of_map _ _ _ loads
  rw [← same] at member
  exact ⟨entries, given, List.mem_filterMap.mp member⟩

/-- The value of a document is settled, whatever it holds. Its characters are whole, so a half
    can come from an escape only. -/
theorem settled_of_decoded (document : Document) (json : Json)
    (decoded : document.decoded = .ok (some json)) : json.Settled := by
  unfold Document.decoded at decoded
  split at decoded
  · rename_i text textRead
    obtain ⟨bytes, _, bytesRead⟩ := Option.bind_eq_some_iff.mp textRead
    obtain ⟨characters, decodes, rfl⟩ := Option.map_eq_some_iff.mp bytesRead
    have whole := Text.unifyBreaks_whole characters (Utf8.decode?_whole bytes characters decodes)
    exact Json.read_settled false _ _ json whole ((Json.orNone_eq_some _ json).mp decoded)
  · cases decoded

/-- The entries of a document are settled, whatever it holds. They are parts of its value. -/
theorem settled_of_mem_entries (document : Document) (entries : List Json)
    (given : document.entries = .ok entries) (entry : Json) (member : entry ∈ entries) :
    entry.Settled := by
  obtain ⟨decoded, read, rfl⟩ := ok_of_map _ _ _ given
  unfold entriesOf at member
  split at member
  · rename_i json
    have settled := document.settled_of_decoded json read
    split at member
    · rename_i items found
      cases settled.field "runs" found with
      | scalar _ scalar => exact scalar.elim
      | list _ all => exact all entry member
    · cases member
  · cases member

/-- The runs of a document are settled, whatever it holds. Their records come from entries,
    field by field. -/
theorem settled_of_mem_runs (document : Document) (run : Run) (member : run ∈ document.runs) :
    run.toJson.Settled := by
  obtain ⟨entries, given, entry, inside, valid⟩ := document.exists_entry_of_mem run member
  exact Run.settled_of_check entry run
    (document.settled_of_mem_entries entries given entry inside) valid

/-- A run of a document has its pairs joined. Reading has joined them, so they are not joined
    again. -/
theorem joined_of_mem_runs (document : Document) (run : Run) (member : run ∈ document.runs) :
    run.joined = run :=
  run.joined_of_settled (document.settled_of_mem_runs run member)

/-- The runs of a document have their pairs joined, all of them. -/
theorem runs_joined (document : Document) : document.runs.map Run.joined = document.runs :=
  (List.map_congr_left document.joined_of_mem_runs).trans (List.map_id _)

/-- The runs of a document can all be written. So an operation does not fail for runs that it
    does not touch. -/
theorem runs_writable (document : Document) : ∀ run ∈ document.runs, Store.writable run = true :=
  fun run member => run.writable_of_settled (document.settled_of_mem_runs run member)

end Document

end AgentRuns
