import AgentRuns.Proofs.Block.Refusal
import AgentRuns.Proofs.Transcript.History

/-!
# Transcripts that are refused

Reading has an answer for every line, whatever stands in it. The one thing that
can fail is the summary of a block that answers a call. It fails over the score of an
entry, or over a payload that nests too deeply to be decoded. So a transcript is refused
exactly if a reading comes to the end of such a block, and the first of them decides.
-/

namespace AgentRuns

/-- A reading fails where one of its steps does after those before it. The steps behind are
    not taken. -/
theorem foldlM_eq_error {ε α γ : Type} (step : α → γ → Except ε α) (items : List γ) (state : α)
    (reason : ε) :
    items.foldlM step state = .error reason ↔ ∃ before item after middle,
      items = before ++ item :: after ∧ before.foldlM step state = .ok middle ∧
        step middle item = .error reason := by
  induction items generalizing state with
  | nil => simp [pure, Except.pure]
  | cons first rest inductionHypothesis =>
    rw [List.foldlM_cons, bind_eq_error]
    constructor
    · rintro (failed | ⟨next, done, further⟩)
      · exact ⟨[], first, rest, state, rfl, rfl, failed⟩
      · obtain ⟨before, item, after, middle, rfl, part, failed⟩ :=
          (inductionHypothesis next).mp further
        refine ⟨first :: before, item, after, middle, rfl, ?_, failed⟩
        rw [List.foldlM_cons, done]
        exact part
    · rintro ⟨before, item, after, middle, split, part, failed⟩
      cases before with
      | nil =>
        obtain ⟨rfl, rfl⟩ := List.cons.inj split
        cases part
        exact Or.inl failed
      | cons other before =>
        obtain ⟨rfl, rfl⟩ := List.cons.inj split
        obtain ⟨next, done, others⟩ := ok_of_foldlM step first before state middle part
        exact Or.inr ⟨next, done, (inductionHypothesis next).mpr
          ⟨before, item, after, middle, rfl, others, failed⟩⟩

section

variable [NestingLimits]

namespace Assembly

/-- Settling fails over the captured block alone. Telling an item never fails. -/
theorem settle_eq_error (assembly : Assembly) (reason : SummaryError) :
    assembly.settle = .error reason ↔
      ∃ block, assembly.captured? = some block ∧ Summary.ofBlock block = .error reason := by
  rw [settle_eq]
  cases assembly.captured? with
  | none => simp
  | some block => cases summed : Summary.ofBlock block <;> simp [Except.map, summed]

/-- A line fails where it finds the open item settled and that fails. What the line is itself
    plays no part. -/
theorem feed_eq_error (assembly : Assembly) (line : Line) (reason : SummaryError) :
    assembly.feed line = .error reason ↔
      assembly.stage.takes? line = none ∧ assembly.settle = .error reason := by
  cases taken : assembly.stage.takes? line with
  | some stage => simp [feed_taken assembly line stage taken]
  | none =>
    rw [feed_refused assembly line taken]
    cases assembly.settle <;> simp [Except.map]

/-- Lines cannot be assembled exactly if the open item cannot be settled where
    the next line does not belong to it, or no line follows. -/
theorem ofLines_eq_error (lines : List Line) (reason : SummaryError) :
    ofLines lines = .error reason ↔ ∃ read unread state, lines = read ++ unread ∧
      read.foldlM feed {} = .ok state ∧
        (∀ line, unread.head? = some line → state.stage.takes? line = none) ∧
          state.settle = .error reason := by
  unfold ofLines
  rw [bind_eq_error]
  constructor
  · rintro (failed | ⟨state, fed, finished⟩)
    · obtain ⟨before, line, after, middle, rfl, part, failed⟩ :=
        (foldlM_eq_error feed lines {} reason).mp failed
      obtain ⟨refused, settles⟩ := (feed_eq_error middle line reason).mp failed
      refine ⟨before, line :: after, middle, rfl, part, ?_, settles⟩
      rintro other first
      cases first
      exact refused
    · refine ⟨lines, [], state, (List.append_nil lines).symm, fed, by simp, ?_⟩
      rcases (bind_eq_error _ _ reason).mp finished with failed | ⟨_, _, done⟩
      · exact failed
      · cases done
  · rintro ⟨read, unread, state, rfl, fed, refused, settles⟩
    cases unread with
    | nil =>
      refine Or.inr ⟨state, by rwa [List.append_nil], ?_⟩
      exact (bind_eq_error _ _ reason).mpr (Or.inl settles)
    | cons line after =>
      refine Or.inl ((foldlM_eq_error feed _ {} reason).mpr
        ⟨read, line, after, state, rfl, fed, ?_⟩)
      exact (feed_eq_error state line reason).mpr ⟨refused line rfl, settles⟩

end Assembly

/-- A block whose end a reading comes to while a call waits for it. Its lines are
    those that the block takes from its opening line on. -/
structure Answering (lines : List Line) (block : Block) : Prop where
  ends : ∃ read unread state, lines = read ++ unread ∧
    read.foldlM Assembly.feed {} = .ok state ∧
      (∀ line, unread.head? = some line → state.stage.takes? line = none) ∧
        state.captured? = some block
  stands : ∃ position, Block.at? lines position = some block

/-- A captured block that takes no further line stands where it was opened. It is found there
    in the whole list of lines, read and unread. -/
theorem Recording.at?_of_captured? (recording : Recording) (sound : recording.Sound)
    (block : Block) (captured : recording.assembly.captured? = some block) (unread : List Line)
    (refused : ∀ line, unread.head? = some line → recording.assembly.stage.takes? line = none) :
    Block.at? (recording.read ++ unread) (recording.read.length - block.lines.length) =
      some block := by
  have isOpen := recording.assembly.block?_of_captured? block captured
  obtain ⟨_, _, stands⟩ := sound.opened block isOpen
  have complete : block.extend unread = block := by
    cases unread with
    | nil => rfl
    | cons line after =>
      have notConsumed := Stage.consumes_of_refused _ line (refused line rfl)
      simp only [Stage.consumes, isOpen, Option.any_some] at notConsumed
      simp [Block.extend, notConsumed]
  rw [stands unread, complete]

/-- A transcript is refused exactly if a block that answers a call cannot be summed up:
it holds a search with a previewed entry whose score cannot be shown, and the first such
entry gives the reason, or its payload nests deeper than there is room for.

The block is one that the reading comes to without failing before, so it is the
first of its kind. Nothing else in a transcript can make the reading fail. -/
theorem refused_iff_block_without_summary (log : Text) (reason : SummaryError) :
    Transcript.events log = .error reason ↔
      ∃ block, Answering log.lines block ∧ Summary.Refused block reason := by
  have placed : Transcript.events log = .error reason ↔
      Assembly.ofLines log.lines = .error reason := by
    unfold Transcript.events
    cases Assembly.ofLines log.lines <;> simp [bind, Except.bind, pure, Except.pure]
  rw [placed, Assembly.ofLines_eq_error]
  constructor
  · rintro ⟨read, unread, state, split, fed, refused, settles⟩
    obtain ⟨block, captured, failed⟩ := (Assembly.settle_eq_error state reason).mp settles
    have why := (Summary.ofBlock_eq_error block reason).mp failed
    obtain ⟨recording, recorded, rfl⟩ := Recording.fold_recorded read state fed
    obtain ⟨sound, whole⟩ := Recording.fold_sound read {} recording Recording.sound_empty recorded
    have stands := recording.at?_of_captured? sound block captured unread refused
    have sameLines : recording.read ++ unread = log.lines := by
      rw [whole, split]
      rfl
    rw [sameLines] at stands
    exact ⟨block, ⟨⟨read, unread, _, split, fed, refused, captured⟩, _, stands⟩, why⟩
  · rintro ⟨block, ⟨⟨read, unread, state, split, fed, refused, captured⟩, _⟩, why⟩
    refine ⟨read, unread, state, split, fed, refused, ?_⟩
    refine (Assembly.settle_eq_error state reason).mpr ⟨block, captured, ?_⟩
    exact (Summary.ofBlock_eq_error block reason).mpr why

end

/-- A search whose result has an entry with a score that is no number. -/
def scoreWithoutNumber : Text := Text.unlines
  ["─── memory_search | memory ───", "query: users",
    "Annotated \x7b",
    "    text: \"\x7b\\\"results\\\": [\x7b\\\"score\\\": NaN\x7d]\x7d\",",
    "\x7d"]

/-- A score that is no number makes the whole transcript fail, although it stands
    in a well-formed payload. -/
theorem score_without_number_refused :
    Transcript.events scoreWithoutNumber = .error .scoreNotANumber := by
  decide +kernel

end AgentRuns
