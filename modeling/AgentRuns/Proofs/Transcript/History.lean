import AgentRuns.Proofs.Transcript.Answering

/-!
# The history of a reading

A reading can be recorded: beside the assembly stand the lines read so far and
the answers given so far. Recording does not change what is read. Each record of
an answer names the block by the line that opens it, holds who waited, and is
made exactly where a summary is resolved.

The main statement speaks of every transcript that can be assembled. After any
number of its lines the calls wait in line, and the answers of the whole reading
account for all results: each comes from the block at its opening line, goes to
a captured call, sets a result at most once and never an empty one, and within a
batch of calls the answers come in the order of the calls.
-/

namespace AgentRuns

/-- An assembly whose events and line make up a ledger with the answers. -/
def Assembly.Balanced (assembly : Assembly) (answers : List Answer) : Prop :=
  Ledger assembly.events assembly.pending answers

namespace Assembly

variable {assembly : Assembly} {answers : List Answer}

/-- An event of another kind keeps the books. Whoever waits is abandoned by it. -/
theorem emit_balanced (balanced : assembly.Balanced answers) (event : Event)
    (notCall : event.kind ≠ .toolCall) (fresh : event.result = none) :
    (assembly.emit event).Balanced answers := by
  have abandoned : (assembly.emit event).pending = [] := if_neg notCall
  unfold Balanced
  rw [abandoned]
  exact balanced.other event notCall fresh

/-- A call keeps the books, and joins the line if it is captured. -/
theorem announce_balanced (balanced : assembly.Balanced answers) (call : Call) :
    (assembly.announce call).Balanced answers := by
  rw [announce_eq]
  exact balanced.call _ rfl rfl

/-- Telling the prose keeps the books. A thought is no call. -/
theorem flush_balanced (balanced : assembly.Balanced answers) :
    assembly.flush.Balanced answers := by
  unfold flush
  cases spoken : Event.reasoning? assembly.thinking with
  | none => exact balanced
  | some event =>
    obtain ⟨_, _, rfl⟩ := (Event.reasoning?_eq_some _ event).mp spoken
    exact emit_balanced balanced _ (by simp) rfl

/-- Telling the open item keeps the books. There is one case for each stage. -/
theorem told_balanced (balanced : assembly.Balanced answers) :
    assembly.told.Balanced answers := by
  have idle : ({ assembly with stage := .between } : Assembly).Balanced answers := balanced
  have notCall (text : Text) (output : List Line) :
      (Event.ofCommand text output).kind ≠ .toolCall := by
    rcases Event.kind_ofCommand text output with kind | kind <;> simp [kind]
  unfold told
  dsimp only
  split
  · exact idle
  · exact idle
  · exact emit_balanced idle _ (by simp [Event.ofSession]) rfl
  · exact emit_balanced idle _ (notCall _ _) rfl
  · exact emit_balanced idle _ (notCall _ _) rfl
  · exact announce_balanced idle _
  · exact announce_balanced idle _
  · exact announce_balanced idle _

/-- A line between items keeps the books. It tells the prose, and a run header besides. -/
theorem start_balanced (balanced : assembly.Balanced answers) (line : Line) :
    (assembly.start line).Balanced answers := by
  rw [start_eq]
  cases line.heading? with
  | some heading =>
    cases heading with
    | run => exact emit_balanced (flush_balanced balanced) _ (by simp) rfl
    | call | command | session => exact flush_balanced balanced
  | none =>
    dsimp only
    split
    · exact balanced
    · split <;> exact balanced

/-- A captured block finds someone in line. It ends a captured call, or it is read between
    items while somebody waits. -/
theorem told_pending_ne (assembly : Assembly) (block : Block)
    (captured : assembly.captured? = some block) : assembly.told.pending ≠ [] := by
  unfold captured? at captured
  unfold told
  split at captured
  · rename_i call _ stage
    split at captured
    · rename_i captures
      simp [stage, announce, captures]
    · cases captured
  · rename_i stage
    split at captured
    · cases captured
    · rename_i waits
      simpa [stage] using waits
  · cases captured

end Assembly

/-- A reading with the lines read so far and the answers given so far. -/
structure Recording where
  assembly : Assembly := {}
  read : List Line := []
  answers : List Answer := []

namespace Recording

section

variable [NestingLimits]

/-- The recording with its open item settled. A captured block leaves a record
    of its answer. -/
def settle (recording : Recording) : Except SummaryError Recording :=
  let told := recording.assembly.told
  match recording.assembly.captured? with
  | none => return { recording with assembly := told }
  | some block => do
    let summary ← Summary.ofBlock block
    let opening := recording.read.length - block.lines.length
    return { recording with
      assembly := told.resolve summary
      answers := recording.answers ++ [{ opening, block, summary, waiting := told.pending }] }

/-- One more line. -/
def feed (recording : Recording) (line : Line) : Except SummaryError Recording :=
  match recording.assembly.stage.takes? line with
  | some stage =>
    return { recording with
      assembly := { recording.assembly with stage }
      read := recording.read ++ [line] }
  | none => do
    let settled ← recording.settle
    return { settled with
      assembly := settled.assembly.start line
      read := settled.read ++ [line] }

/-- The recording of a sequence of lines. -/
def ofLines (lines : List Line) : Except SummaryError Recording := do
  (← lines.foldlM feed {}).settle

/-- Recording does not change what settling does. Failures are the same as well. -/
theorem settle_assembly (recording : Recording) :
    recording.settle.map (·.assembly) = recording.assembly.settle := by
  rw [Assembly.settle_eq, settle]
  cases recording.assembly.captured? with
  | none => rfl
  | some block =>
    dsimp only
    cases Summary.ofBlock block <;> rfl

/-- Recording does not change what a line does. Failures are the same as well. -/
theorem feed_assembly (recording : Recording) (line : Line) :
    (recording.feed line).map (·.assembly) = recording.assembly.feed line := by
  cases taken : recording.assembly.stage.takes? line with
  | some stage =>
    rw [Assembly.feed_taken recording.assembly line stage taken]
    simp only [feed, taken]
    rfl
  | none =>
    rw [Assembly.feed_refused recording.assembly line taken, ← settle_assembly]
    simp only [feed, taken]
    cases recording.settle <;> rfl

/-- What settling records: nothing, or one answer by the open block. The answer goes to the
    head of the line. -/
theorem settle_cases (recording settled : Recording) (done : recording.settle = .ok settled) :
    settled = { recording with assembly := recording.assembly.told } ∨
      ∃ block summary, recording.assembly.captured? = some block ∧
        Summary.ofBlock block = .ok summary ∧
        settled = { recording with
          assembly := recording.assembly.told.resolve summary
          answers := recording.answers ++ [{
            opening := recording.read.length - block.lines.length
            block := block
            summary := summary
            waiting := recording.assembly.told.pending }] } := by
  unfold settle at done
  dsimp only at done
  split at done
  · cases done
    exact Or.inl rfl
  · rename_i block captured
    obtain ⟨summary, summed, resolved⟩ := ok_of_bind _ _ settled done
    exact Or.inr ⟨block, summary, captured, summed, (Except.ok.inj resolved).symm⟩

/-- Where the open block begins, or where the lines end that were read. -/
def place (recording : Recording) : Nat :=
  match recording.assembly.stage.block? with
  | some block => recording.read.length - block.lines.length
  | none => recording.read.length

/-- A recording whose books are kept and whose blocks stand where it says. Lines
    yet unread do not change a block that has answered. -/
structure Sound (recording : Recording) : Prop where
  balanced : recording.assembly.Balanced recording.answers
  behind : ∀ answer ∈ recording.answers, answer.opening < recording.place
  found : ∀ answer ∈ recording.answers, ∀ unread,
    Block.at? (recording.read ++ unread) answer.opening = some answer.block
  summed : ∀ answer ∈ recording.answers, Summary.ofBlock answer.block = .ok answer.summary
  opened : ∀ block, recording.assembly.stage.block? = some block →
    0 < block.lines.length ∧ block.lines.length ≤ recording.read.length ∧
    ∀ unread, Block.at? (recording.read ++ unread)
      (recording.read.length - block.lines.length) = some (block.extend unread)

/-- The beginning of a recording. Nothing is told, nobody waits and no block is open. -/
theorem sound_empty : Sound {} where
  balanced := Ledger.empty
  behind := by simp
  found := by simp
  summed := by simp
  opened := by simp [Stage.block?]

end

/-- The open block begins among the lines that were read. -/
theorem place_le (recording : Recording) : recording.place ≤ recording.read.length := by
  unfold place
  split <;> omega

/-- Settling keeps the books. The block of a new answer is the open one, and it
    stands behind all that answered before. -/
theorem settle_sound [NestingLimits] (recording settled : Recording) (sound : recording.Sound)
    (done : recording.settle = .ok settled) :
    settled.read = recording.read ∧ settled.assembly.stage = .between ∧
      settled.assembly.Balanced settled.answers ∧
      (∀ answer ∈ settled.answers, answer.opening < recording.read.length) ∧
      (∀ answer ∈ settled.answers, Summary.ofBlock answer.block = .ok answer.summary) ∧
      ∀ unread, (∀ block, recording.assembly.stage.block? = some block →
          block.extend unread = block) →
        ∀ answer ∈ settled.answers,
          Block.at? (recording.read ++ unread) answer.opening = some answer.block := by
  have told : recording.assembly.told.Balanced recording.answers :=
    Assembly.told_balanced sound.balanced
  have before : ∀ answer ∈ recording.answers, answer.opening < recording.read.length :=
    fun answer given => Nat.lt_of_lt_of_le (sound.behind answer given) recording.place_le
  rcases settle_cases recording settled done with rfl | ⟨block, summary, captured, summed, rfl⟩
  · exact ⟨rfl, Assembly.told_stage _, told, before, sound.summed,
      fun unread _ answer given => sound.found answer given unread⟩
  · have isOpen := recording.assembly.block?_of_captured? block captured
    obtain ⟨someLine, within, stands⟩ := sound.opened block isOpen
    obtain ⟨call, later, line⟩ :=
      List.exists_cons_of_ne_nil (recording.assembly.told_pending_ne block captured)
    have below : ∀ prior ∈ recording.answers,
        prior.opening < recording.read.length - block.lines.length := by
      intro prior given
      have ahead := sound.behind prior given
      simpa only [place, isOpen] using ahead
    refine ⟨rfl, ?_, ?_, ?_, ?_, ?_⟩
    · rw [Assembly.resolve_stage, Assembly.told_stage]
    · unfold Assembly.Balanced at told ⊢
      rw [line] at told
      rw [Assembly.resolve_eq _ summary call later line]
      exact told.answer
        ⟨recording.read.length - block.lines.length, block, summary,
          recording.assembly.told.pending⟩
        line below
    · intro answer given
      rcases List.mem_append.mp given with old | new
      · exact before answer old
      · rw [List.mem_singleton.mp new]
        dsimp only
        omega
    · intro answer given
      rcases List.mem_append.mp given with old | new
      · exact sound.summed answer old
      · rw [List.mem_singleton.mp new]
        exact summed
    · intro unread ends answer given
      rcases List.mem_append.mp given with old | new
      · exact sound.found answer old unread
      · rw [List.mem_singleton.mp new]
        exact (stands unread).trans (congrArg some (ends block isOpen))

/-- A line that opens a block stands where the block is found. The unread lines are read into
    the block from there. -/
theorem opened_start (read : List Line) (line : Line) :
    0 < (Block.start line).lines.length ∧
      (Block.start line).lines.length ≤ (read ++ [line]).length ∧
      ∀ unread, Block.at? (read ++ [line] ++ unread)
        ((read ++ [line]).length - (Block.start line).lines.length) =
          some ((Block.start line).extend unread) := by
  have place : (read ++ [line]).length - (Block.start line).lines.length = read.length := by
    simp [Block.start]
  refine ⟨by simp [Block.start], by simp [Block.start], ?_⟩
  intro unread
  rw [place]
  simp [Block.at?, Block.start]

/-- Behind a line that opens a block at most, a recording is sound once its books
    are kept and its answers stand before that line. -/
theorem sound_behind [NestingLimits] (assembly : Assembly) (read : List Line) (line : Line)
    (answers : List Answer) (balanced : assembly.Balanced answers)
    (before : ∀ answer ∈ answers, answer.opening < read.length)
    (found : ∀ answer ∈ answers, ∀ unread,
      Block.at? (read ++ [line] ++ unread) answer.opening = some answer.block)
    (summed : ∀ answer ∈ answers, Summary.ofBlock answer.block = .ok answer.summary)
    (atMost : assembly.stage.block? = none ∨ assembly.stage.block? = some (Block.start line)) :
    Sound ⟨assembly, read ++ [line], answers⟩ := by
  refine ⟨balanced, ?_, found, summed, ?_⟩
  · intro answer given
    have ahead := before answer given
    rcases atMost with closed | opens
    · simp only [place, closed, List.length_append, List.length_singleton]
      omega
    · simpa [place, opens, Block.start] using ahead
  · intro block isOpen
    rcases atMost with closed | opens
    · cases closed.symm.trans isOpen
    · cases opens.symm.trans isOpen
      exact opened_start read line

/-- A line that belongs to the open item keeps a recording sound. The open block is the same
    one with a further line, or it begins with this line. -/
theorem taken_sound [NestingLimits] (recording : Recording) (line : Line) (stage : Stage)
    (sound : recording.Sound) (taken : recording.assembly.stage.takes? line = some stage) :
    Sound { recording with
      assembly := { recording.assembly with stage }
      read := recording.read ++ [line] } := by
  have before : ∀ answer ∈ recording.answers, answer.opening < recording.read.length :=
    fun answer given => Nat.lt_of_lt_of_le (sound.behind answer given) recording.place_le
  have found : ∀ answer ∈ recording.answers, ∀ unread,
      Block.at? (recording.read ++ [line] ++ unread) answer.opening = some answer.block := by
    intro answer given unread
    rw [List.append_assoc]
    exact sound.found answer given _
  obtain ⟨_, step⟩ := Stage.takes_cases recording.assembly.stage stage line taken
  rcases step with ⟨block, isOpen, takes, grown⟩ | ⟨_, _, atMost⟩
  · obtain ⟨someLine, within, stands⟩ := sound.opened block isOpen
    have same : (recording.read ++ [line]).length - (block.add line).lines.length =
        recording.read.length - block.lines.length := by
      simp only [Block.add, List.length_append, List.length_singleton]
      omega
    refine ⟨sound.balanced, ?_, found, sound.summed, ?_⟩
    · intro answer given
      have ahead := sound.behind answer given
      simp only [place, isOpen] at ahead
      simp only [place, grown, same]
      exact ahead
    · intro other isGrown
      cases grown.symm.trans isGrown
      refine ⟨by simp [Block.add], by simp [Block.add, within], ?_⟩
      intro unread
      simp only [same, List.append_assoc, List.singleton_append]
      rw [stands (line :: unread), Block.extend, if_pos takes]
  · exact sound_behind _ recording.read line recording.answers sound.balanced before found
      sound.summed atMost

/-- A line between items opens a block at most. The block holds that line alone. -/
theorem start_block? (assembly : Assembly) (line : Line)
    (idle : assembly.stage = .between) :
    (assembly.start line).stage.block? = none ∨
      (assembly.start line).stage.block? = some (Block.start line) := by
  rw [Assembly.start_eq]
  cases line.heading? with
  | some heading => cases heading <;> simp [Assembly.begin, Stage.block?, idle]
  | none =>
    dsimp only
    split
    · simp [idle, Stage.block?]
    · split <;> simp [idle, Stage.block?]

variable [NestingLimits]

/-- A line that settles the open item keeps a recording sound: the block that
    answers does not take the line, so it is complete. -/
theorem refused_sound (recording settled : Recording) (line : Line) (sound : recording.Sound)
    (refused : recording.assembly.stage.takes? line = none)
    (done : recording.settle = .ok settled) :
    Sound { settled with
      assembly := settled.assembly.start line
      read := settled.read ++ [line] } := by
  obtain ⟨read, idle, balanced, before, summed, found⟩ :=
    settle_sound recording settled sound done
  have ends : ∀ unread, ∀ block, recording.assembly.stage.block? = some block →
      block.extend (line :: unread) = block := by
    intro unread block isOpen
    have notConsumed := Stage.consumes_of_refused recording.assembly.stage line refused
    simp only [Stage.consumes, isOpen, Option.any_some] at notConsumed
    simp [Block.extend, notConsumed]
  have stands : ∀ answer ∈ settled.answers, ∀ unread,
      Block.at? (settled.read ++ [line] ++ unread) answer.opening = some answer.block := by
    intro answer given unread
    rw [read, List.append_assoc, List.singleton_append]
    exact found (line :: unread) (ends unread) answer given
  exact sound_behind _ settled.read line settled.answers (Assembly.start_balanced balanced line)
    (read ▸ before) stands summed (start_block? settled.assembly line idle)

/-- What a line records: one more line read, in the open item or behind it. -/
theorem feed_cases (recording next : Recording) (line : Line)
    (fed : recording.feed line = .ok next) :
    (∃ stage, recording.assembly.stage.takes? line = some stage ∧
        next = { recording with
          assembly := { recording.assembly with stage }
          read := recording.read ++ [line] }) ∨
      (recording.assembly.stage.takes? line = none ∧
        ∃ settled, recording.settle = .ok settled ∧
          next = { settled with
            assembly := settled.assembly.start line
            read := settled.read ++ [line] }) := by
  unfold feed at fed
  split at fed
  · rename_i stage taken
    exact Or.inl ⟨stage, taken, (Except.ok.inj fed).symm⟩
  · rename_i refused
    obtain ⟨settled, done, started⟩ := ok_of_bind _ _ next fed
    exact Or.inr ⟨refused, settled, done, (Except.ok.inj started).symm⟩

/-- Every line keeps a recording sound. It is taken by the open item, or the item is settled
    and the line begins anew. -/
theorem feed_sound (recording next : Recording) (line : Line) (sound : recording.Sound)
    (fed : recording.feed line = .ok next) : next.Sound := by
  rcases feed_cases recording next line fed with
    ⟨stage, taken, rfl⟩ | ⟨refused, settled, done, rfl⟩
  · exact taken_sound recording line stage sound taken
  · exact refused_sound recording settled line sound refused done

/-- A line is one more line read. -/
theorem feed_read (recording next : Recording) (line : Line)
    (fed : recording.feed line = .ok next) : next.read = recording.read ++ [line] := by
  rcases feed_cases recording next line fed with ⟨stage, _, rfl⟩ | ⟨_, settled, done, rfl⟩
  · rfl
  · rcases settle_cases recording settled done with rfl | ⟨_, _, _, _, rfl⟩ <;> rfl

/-- A whole recording is sound and has read its lines. The induction is on the lines, one step
    for each. -/
theorem fold_sound (lines : List Line) (recording final : Recording) (sound : recording.Sound)
    (fed : lines.foldlM feed recording = .ok final) :
    final.Sound ∧ final.read = recording.read ++ lines := by
  induction lines generalizing recording with
  | nil =>
    cases fed
    exact ⟨sound, (List.append_nil _).symm⟩
  | cons line rest inductionHypothesis =>
    obtain ⟨next, step, others⟩ := ok_of_foldlM feed line rest recording final fed
    obtain ⟨finalSound, finalRead⟩ :=
      inductionHypothesis next (feed_sound recording next line sound step) others
    refine ⟨finalSound, ?_⟩
    rw [finalRead, feed_read recording next line step, List.append_assoc,
      List.singleton_append]

/-- Whatever lines can be read can be recorded, with the same assembly. Recording is in step
    with reading, line by line. -/
theorem fold_recorded (lines : List Line) (state : Assembly)
    (fed : lines.foldlM Assembly.feed {} = .ok state) :
    ∃ recording, lines.foldlM feed {} = .ok recording ∧ recording.assembly = state := by
  have same := foldlM_project (·.assembly) feed Assembly.feed feed_assembly lines {}
  exact ok_of_map _ _ state (same.trans fed)

/-- Whatever can be settled can be settled on record, with the same assembly. -/
theorem settle_recorded (recording : Recording) (settled : Assembly)
    (done : recording.assembly.settle = .ok settled) :
    ∃ record, recording.settle = .ok record ∧ record.assembly = settled := by
  exact ok_of_map _ _ settled ((settle_assembly recording).trans done)

end Recording

/-- Wherever a reading has come to, the calls wait in line, and so they do when the
    open item is told and when it is settled. -/
theorem Assembly.fold_waits [NestingLimits] (lines : List Line) (state : Assembly)
    (fed : lines.foldlM feed {} = .ok state) :
    Waits state.events state.pending ∧ Waits state.told.events state.told.pending ∧
      ∀ settled, state.settle = .ok settled → Waits settled.events settled.pending := by
  obtain ⟨recording, recorded, rfl⟩ := Recording.fold_recorded lines state fed
  obtain ⟨sound, _⟩ := Recording.fold_sound lines {} recording Recording.sound_empty recorded
  refine ⟨sound.balanced.toWaits, (told_balanced sound.balanced).toWaits, ?_⟩
  intro settled settles
  obtain ⟨record, kept, rfl⟩ := recording.settle_recorded settled settles
  obtain ⟨_, _, balanced, _⟩ := Recording.settle_sound recording record sound kept
  exact balanced.toWaits

/-- How results come about when a transcript is read. After any number of lines
    the calls wait in line, also when the open item is settled there. The answers
    of the whole reading account for all results, and each is given by the block
    that its opening line opens. -/
structure AnsweredInTurn [NestingLimits] (log : Text) (events : List Event) : Prop where
  waits : ∀ read unread, log.lines = read ++ unread → ∃ state,
    read.foldlM Assembly.feed {} = .ok state ∧ Waits state.events state.pending ∧
      ∀ settled, state.settle = .ok settled → Waits settled.events settled.pending
  recorded : ∃ recording, Recording.ofLines log.lines = .ok recording ∧
    recording.assembly.flush.events = events ∧ Accounts events recording.answers ∧
      ∀ answer ∈ recording.answers,
        Block.at? log.lines answer.opening = some answer.block ∧
          Summary.ofBlock answer.block = .ok answer.summary

/-- Results of every transcript that can be assembled are answers in turn.

The ledger is kept by every line, hence by every reading of a part of the lines;
the last settling and the prose behind it keep it as well. -/
theorem results_answer_in_turn [NestingLimits] (log : Text) (events : List Event)
    (assembled : Assembly.ofLines log.lines = .ok events) : AnsweredInTurn log events := by
  obtain ⟨state, last, fed, done, rfl⟩ := (Assembly.ofLines_eq_ok log.lines events).mp assembled
  constructor
  case waits =>
    intro read unread split
    rw [split] at fed
    obtain ⟨middle, part, _⟩ := Assembly.foldlM_part read unread {} state fed
    obtain ⟨waits, _, settledWaits⟩ := Assembly.fold_waits read middle part
    exact ⟨middle, part, waits, settledWaits⟩
  case recorded =>
    obtain ⟨recording, recorded, rfl⟩ := Recording.fold_recorded log.lines state fed
    obtain ⟨sound, read⟩ :=
      Recording.fold_sound log.lines {} recording Recording.sound_empty recorded
    obtain ⟨record, kept, rfl⟩ := recording.settle_recorded last done
    obtain ⟨_, _, balanced, _, summed, found⟩ :=
      Recording.settle_sound recording record sound kept
    refine ⟨record, ?_, rfl, (Assembly.flush_balanced balanced).toAccounts, ?_⟩
    · unfold Recording.ofLines
      rw [recorded]
      exact kept
    · intro answer given
      have stands := found [] (fun _ _ => rfl) answer given
      rw [List.append_nil, read] at stands
      exact ⟨stands, summed answer given⟩

/-- Two calls in a batch, the first answered by a block without a payload, and a
    third call that a command abandons. -/
def batchedLog : Text := Text.unlines
  ["─── memory_search | memory ───", "query: users",
    "─── memory_add | memory ───",
    "Annotated \x7b", "    annotations: None,", "\x7d",
    "Annotated \x7b", "    text: \"\x7b\\\"success\\\": true\x7d\",", "\x7d",
    "─── memory_add | memory ───", "$ git push", "Annotated \x7b \x7d"]

/-- The block without a payload uses up the first call, the second one is stored. The third is
    left without a result. -/
theorem batched_log_answers_in_turn : ∃ events,
    Assembly.ofLines batchedLog.lines = .ok events ∧
      events.map (·.result) = [none, some ("stored" : Text), none, none] ∧
      AnsweredInTurn batchedLog events := by
  have results : (Assembly.ofLines batchedLog.lines).toOption.map (List.map (·.result)) =
      some [none, some ("stored" : Text), none, none] := by decide +kernel
  cases assembled : Assembly.ofLines batchedLog.lines with
  | error reason => simp [assembled, Except.toOption] at results
  | ok events =>
    rw [assembled] at results
    exact ⟨events, rfl, Option.some.inj results,
      results_answer_in_turn batchedLog events assembled⟩

end AgentRuns
