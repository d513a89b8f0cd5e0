import AgentRuns.Proofs.Block.Growth
import AgentRuns.Proofs.Transcript.History

/-!
# Transcripts of runs that go on

The transcript of a run is read again whenever somebody looks, and by then it
has grown. What was shown before is not taken back. Of the events of the shorter
transcript all but the last stand in the longer one, in their places and with
everything they had, except that a result may have come. The last event may
still be growing itself; a result that it has stays as well.

Along a reading events are only added and results only set where there was none.
One thing is shown ahead of the reading: where the lines end inside a block, the
block answers with what there is of it. The answer is one that the whole block
gives too, since a payload that is closed is not affected by what follows.
-/

namespace AgentRuns

/-- The event without its result. -/
def Event.bare (event : Event) : Event := { event with result := none }

/-- An answer touches nothing but the result. -/
theorem Event.bare_answered (event : Event) (summary : Text) :
    (event.answered summary).bare = event.bare := by
  unfold Event.answered
  split <;> rfl

/-- Events that others go on from: those come first, with all they had, and no
    result that they had is changed. -/
structure Extends (earlier later : List Event) : Prop where
  bare : earlier.map Event.bare <+: later.map Event.bare
  results : ∀ place text, resultAt earlier place = some text → resultAt later place = some text

namespace Extends

/-- Events extend themselves. -/
theorem refl (events : List Event) : Extends events events where
  bare := List.prefix_refl _
  results := fun _ _ shown => shown

/-- Extending goes on from one list of events to the next. A result that is there is there
    ever after. -/
theorem trans {first second third : List Event} (before : Extends first second)
    (after : Extends second third) : Extends first third where
  bare := before.bare.trans after.bare
  results := fun place text shown => after.results place text (before.results place text shown)

/-- Further events stand behind. Those before them are as they were. -/
theorem append (events more : List Event) : Extends events (events ++ more) where
  bare := by
    rw [List.map_append]
    exact List.prefix_append _ _
  results := by
    intro place text shown
    obtain ⟨event, found, result⟩ := Option.bind_eq_some_iff.mp shown
    have inside : place < events.length := (List.getElem?_eq_some_iff.mp found).1
    rw [resultAt, List.getElem?_append_left inside, found]
    exact result

/-- An answer to somebody without a result changes no result. It sets one where there was
    none. -/
theorem answered (events : List Event) (call : Nat) (summary : Text)
    (unanswered : resultAt events call = none) (inside : call < events.length) :
    Extends events (events.modify call (Event.answered summary)) where
  bare := by
    have same := map_answered events summary call Event.bare fun event =>
      event.bare_answered summary
    exact same ▸ List.prefix_refl _
  results := by
    intro place text shown
    rw [resultAt_answered events summary call place inside]
    split
    · rename_i here
      rw [← here.1, unanswered] at shown
      cases shown
    · exact shown

end Extends

/-- Events without results behind others show no result. At their places none is found either. -/
theorem resultAt_fresh (events fresh : List Event)
    (none : ∀ event ∈ fresh, event.result = none) (place : Nat) :
    resultAt (events ++ fresh) place = resultAt events place := by
  unfold resultAt
  by_cases inside : place < events.length
  · rw [List.getElem?_append_left inside]
  · have behind : events.length ≤ place := Nat.le_of_not_lt inside
    rw [List.getElem?_append_right behind, List.getElem?_eq_none behind]
    cases found : fresh[place - events.length]? with
    | none => rfl
    | some event => exact none event (List.mem_of_getElem? found)

namespace Assembly

/-- Settling tells the open item and changes results at most. So the events but for their
    results are known before any block is decoded. -/
theorem settle_bare [NestingLimits] (assembly settled : Assembly)
    (done : assembly.settle = .ok settled) :
    settled.events.map Event.bare =
      (assembly.events ++ assembly.stage.event?.toList).map Event.bare := by
  rw [← told_events]
  rcases assembly.settle_cases settled done with rfl | ⟨summary, rfl⟩
  · rfl
  · unfold resolve
    split
    · rfl
    · exact map_answered _ summary _ Event.bare fun event => event.bare_answered summary

/-- Telling the open item adds its event, if it has one, without a result. The prose stays
    gathered. -/
theorem told_tail (assembly : Assembly) : ∃ fresh : List Event,
    assembly.told.events = assembly.events ++ fresh ∧
      fresh.length = assembly.stage.heading?.toList.length ∧
      assembly.told.thinking = assembly.thinking ∧ ∀ event ∈ fresh, event.result = none := by
  refine ⟨assembly.stage.event?.toList, assembly.told_events, ?_⟩
  unfold told
  cases assembly.stage with
  | between | detached => simp [Stage.event?, Stage.heading?]
  | session => simp [emit, Stage.event?, Stage.heading?, Event.ofSession]
  | command | commandBlock => simp [emit, Stage.event?, Stage.heading?, Event.ofCommand]
  | params | body | answer => simp [announce_eq, Stage.event?, Stage.heading?, Event.ofCall]

/-- The prose adds an event at most, without a result, and none if there is no
    prose. -/
theorem flush_tail (assembly : Assembly) : ∃ fresh : List Event,
    assembly.flush.events = assembly.events ++ fresh ∧ fresh.length ≤ 1 ∧
      (assembly.thinking = [] → fresh = []) ∧ ∀ event ∈ fresh, event.result = none := by
  refine ⟨_, assembly.flush_events, ?_⟩
  cases spoken : Event.reasoning? assembly.thinking with
  | none => simp
  | some event =>
    obtain ⟨_, _, rfl⟩ := (Event.reasoning?_eq_some _ event).mp spoken
    refine ⟨by simp, ?_, by simp⟩
    intro silent
    rw [silent] at spoken
    cases spoken

/-- Telling the open item extends the events. -/
theorem told_extends (assembly : Assembly) : Extends assembly.events assembly.told.events := by
  obtain ⟨fresh, told, _⟩ := assembly.told_tail
  rw [told]
  exact Extends.append _ _

/-- Telling the gathered prose extends the events. -/
theorem flush_extends (assembly : Assembly) : Extends assembly.events assembly.flush.events := by
  obtain ⟨fresh, flushed, _⟩ := assembly.flush_tail
  rw [flushed]
  exact Extends.append _ _

/-- A line between items adds events at most. It answers nobody. -/
theorem start_extends (assembly : Assembly) (line : Line) :
    Extends assembly.events (assembly.start line).events := by
  rw [start_eq]
  cases line.heading? with
  | some heading =>
    cases heading with
    | run header => exact assembly.flush_extends.trans (Extends.append _ _)
    | call | command | session => exact assembly.flush_extends
  | none =>
    dsimp only
    split
    · exact Extends.refl _
    · split <;> exact Extends.refl _

/-- An answer to the head of a line of waiting calls changes no result. Whoever waits has
    none. -/
theorem resolve_extends (assembly : Assembly) (summary : Text)
    (waits : Waits assembly.events assembly.pending) :
    Extends assembly.events (assembly.resolve summary).events := by
  cases line : assembly.pending with
  | nil =>
    have unchanged : assembly.resolve summary = assembly := by simp [resolve, line]
    rw [unchanged]
    exact Extends.refl _
  | cons call later =>
    rw [resolve_eq assembly summary call later line]
    have first : call ∈ assembly.pending := by simp [line]
    exact Extends.answered assembly.events call summary (waits.unanswered call first)
      (capturedAt_inside assembly.events call (waits.captured call first))

/-- While an item is read that has an event, no prose is gathered. -/
def Tidy (assembly : Assembly) : Prop :=
  (assembly.stage.heading?).isSome = true → assembly.thinking = []

section

variable [NestingLimits]

/-- Every line keeps an assembly tidy: prose is told before an item begins. A block between
    items is the one thing that prose goes on behind. -/
theorem feed_tidy (assembly fed : Assembly) (line : Line) (tidy : assembly.Tidy)
    (done : assembly.feed line = .ok fed) : fed.Tidy := by
  rcases assembly.feed_cases fed line done with
    ⟨stage, taken, rfl⟩ | ⟨_, settled, settles, rfl⟩
  · obtain ⟨sameHeading, _⟩ := assembly.stage.takes_cases stage line taken
    intro opened
    rw [sameHeading] at opened
    exact tidy opened
  · have idle := settle_stage assembly settled settles
    rw [start_eq]
    cases line.heading? with
    | some heading =>
      cases heading with
      | run => simp [Tidy, begin, idle, Stage.heading?]
      | call | command | session => exact fun _ => rfl
    | none =>
      dsimp only
      split
      · simp [Tidy, idle, Stage.heading?]
      · split <;> simp [Tidy, idle, Stage.heading?]

/-- Every reading keeps an assembly tidy. The induction is on the lines. -/
theorem fold_tidy (lines : List Line) (assembly final : Assembly) (tidy : assembly.Tidy)
    (done : lines.foldlM feed assembly = .ok final) : final.Tidy := by
  induction lines generalizing assembly with
  | nil =>
    cases done
    exact tidy
  | cons line rest inductionHypothesis =>
    obtain ⟨next, step, others⟩ := ok_of_foldlM feed line rest assembly final done
    exact inductionHypothesis next (assembly.feed_tidy next line tidy step) others

/-- The end of a reading adds an event at most: that of the open item, or else
    the prose. -/
theorem length_settle_flush (assembly settled : Assembly) (tidy : assembly.Tidy)
    (done : assembly.settle = .ok settled) :
    settled.flush.events.length ≤ assembly.events.length + 1 := by
  obtain ⟨fresh, told, opened, sameThinking, _⟩ := assembly.told_tail
  have same : settled.events.length = assembly.told.events.length ∧
      settled.thinking = assembly.told.thinking := by
    rcases assembly.settle_cases settled done with rfl | ⟨summary, rfl⟩
    · exact ⟨rfl, rfl⟩
    · unfold resolve
      split
      · exact ⟨rfl, rfl⟩
      · simp
  obtain ⟨spoken, flushed, atMost, silent, _⟩ := settled.flush_tail
  rw [flushed, List.length_append, same.1, told, List.length_append, opened]
  cases heading : assembly.stage.heading? with
  | none => simpa using atMost
  | some _ =>
    have noProse : assembly.thinking = [] := tidy (by simp [heading])
    rw [silent (same.2.trans (sameThinking.trans noProse))]
    simp

/-- The assembly shows a result: it stands among the events, or the open block
    gives it to the call that has waited longest. -/
def Shows (assembly : Assembly) (place : Nat) (text : Text) : Prop :=
  resultAt assembly.events place = some text ∨
    text ≠ [] ∧ assembly.told.pending.head? = some place ∧
      ∃ block, assembly.captured? = some block ∧ Summary.ofBlock block = .ok text

end

/-- A captured block that grows remains the captured one, and the same calls wait
    for it. -/
theorem captured?_taken (assembly : Assembly) (line : Line) (stage : Stage) (block : Block)
    (captured : assembly.captured? = some block)
    (taken : assembly.stage.takes? line = some stage) :
    ({ assembly with stage } : Assembly).captured? = some (block.add line) ∧
      ({ assembly with stage } : Assembly).told.pending = assembly.told.pending := by
  obtain ⟨events, thinking, pending, opened⟩ := assembly
  cases opened.takes_of_takes? stage line taken with
  | answer call below =>
    simp only [captured?] at captured
    split at captured
    · rename_i captures
      cases captured
      exact ⟨if_pos captures, rfl⟩
    · cases captured
  | detached below =>
    simp only [captured?] at captured
    split at captured
    · cases captured
    · rename_i waits
      cases captured
      exact ⟨if_neg waits, rfl⟩
  | detail | command | commandBlock | behindBlock | noise | param | behindParams | body =>
    cases captured

variable [NestingLimits]

/-- A line of the open item leaves shown what is shown. A block that has its payload keeps it,
    whatever is taken after. -/
theorem taken_shows (assembly : Assembly) (line : Line) (stage : Stage) (place : Nat)
    (text : Text) (shows' : assembly.Shows place text)
    (taken : assembly.stage.takes? line = some stage) :
    ({ assembly with stage } : Assembly).Shows place text := by
  rcases shows' with shown | ⟨someText, head, block, captured, summed⟩
  · exact Or.inl shown
  · obtain ⟨grown, sameLine⟩ := assembly.captured?_taken line stage block captured taken
    refine Or.inr ⟨someText, sameLine ▸ head, block.add line, grown, ?_⟩
    exact Summary.ofBlock_add block line text summed someText

/-- What waits when the open item is told waits for its answer. So settling extends the
    events. -/
theorem settle_extends (assembly settled : Assembly)
    (waits : Waits assembly.told.events assembly.told.pending)
    (done : assembly.settle = .ok settled) : Extends assembly.events settled.events := by
  rcases assembly.settle_cases settled done with rfl | ⟨summary, rfl⟩
  · exact assembly.told_extends
  · exact assembly.told_extends.trans (assembly.told.resolve_extends summary waits)

/-- Settling shows what was shown. What the open block would answer is answered now. -/
theorem settle_shows (assembly settled : Assembly) (place : Nat) (text : Text)
    (waits : Waits assembly.told.events assembly.told.pending)
    (done : assembly.settle = .ok settled) (shows' : assembly.Shows place text) :
    resultAt settled.events place = some text := by
  rcases shows' with shown | ⟨someText, head, block, captured, summed⟩
  · exact (assembly.settle_extends settled waits done).results place text shown
  · obtain ⟨later, line⟩ := List.head?_eq_some_iff.mp head
    have first : place ∈ assembly.told.pending := by simp [line]
    have inside := capturedAt_inside _ place (waits.captured place first)
    rw [settle_eq, captured] at done
    dsimp only at done
    rw [summed] at done
    cases done
    rw [resolve_eq assembly.told text place later line,
      resultAt_answered assembly.told.events text place place inside, if_pos ⟨rfl, someText⟩]

/-- Settling shows nothing else. A result that is there was there before, or the open block
    was to answer it. -/
theorem shows_of_settle (assembly settled : Assembly) (place : Nat) (text : Text)
    (waits : Waits assembly.told.events assembly.told.pending)
    (done : assembly.settle = .ok settled) (shown : resultAt settled.events place = some text) :
    assembly.Shows place text := by
  obtain ⟨fresh, told, _, _, none⟩ := assembly.told_tail
  have before : resultAt assembly.told.events place = resultAt assembly.events place := by
    rw [told]
    exact resultAt_fresh assembly.events fresh none place
  rw [settle_eq] at done
  split at done
  · cases done
    exact Or.inl (before ▸ shown)
  · rename_i block captured
    obtain ⟨summary, summed, rfl⟩ := ok_of_map _ _ settled done
    cases line : assembly.told.pending with
    | nil =>
      have unchanged : assembly.told.resolve summary = assembly.told := by simp [resolve, line]
      rw [unchanged] at shown
      exact Or.inl (before ▸ shown)
    | cons call later =>
      have first : call ∈ assembly.told.pending := by simp [line]
      have inside := capturedAt_inside _ call (waits.captured call first)
      rw [resolve_eq assembly.told summary call later line,
        resultAt_answered assembly.told.events summary call place inside] at shown
      split at shown
      · rename_i answered
        obtain ⟨rfl, someText⟩ := answered
        cases shown
        exact Or.inr ⟨someText, by rw [line, List.head?_cons], block, captured, summed⟩
      · exact Or.inl (before ▸ shown)

/-- A line adds events at most, and leaves shown what is shown. It is taken by the open item
    or settles it. -/
theorem feed_extends (assembly fed : Assembly) (line : Line)
    (waits : Waits assembly.told.events assembly.told.pending)
    (done : assembly.feed line = .ok fed) :
    Extends assembly.events fed.events ∧
      ∀ place text, assembly.Shows place text → fed.Shows place text := by
  rcases assembly.feed_cases fed line done with
    ⟨stage, taken, rfl⟩ | ⟨_, settled, settles, rfl⟩
  · exact ⟨Extends.refl _, fun place text shown =>
      assembly.taken_shows line stage place text shown taken⟩
  · have started := settled.start_extends line
    refine ⟨(assembly.settle_extends settled waits settles).trans started, ?_⟩
    intro place text shown
    exact Or.inl (started.results place text
      (assembly.settle_shows settled place text waits settles shown))

end Assembly

namespace Recording

/-- Whoever waits in a sound recording waits still when the open item is told. Its own call
    joins the line at its end. -/
theorem Sound.waits [NestingLimits] {recording : Recording} (sound : recording.Sound) :
    Waits recording.assembly.told.events recording.assembly.told.pending :=
  (Assembly.told_balanced sound.balanced).toWaits

/-- A reading adds events at most, and leaves shown what is shown. The induction is on the
    lines, one step for each. -/
theorem fold_extends [NestingLimits] (lines : List Line) (recording final : Recording)
    (sound : recording.Sound) (fed : lines.foldlM feed recording = .ok final) :
    Extends recording.assembly.events final.assembly.events ∧
      ∀ place text, recording.assembly.Shows place text → final.assembly.Shows place text := by
  induction lines generalizing recording with
  | nil =>
    cases fed
    exact ⟨Extends.refl _, fun _ _ shown => shown⟩
  | cons line rest inductionHypothesis =>
    obtain ⟨next, step, others⟩ := ok_of_foldlM feed line rest recording final fed
    have read : recording.assembly.feed line = .ok next.assembly := by
      rw [← feed_assembly, step]
      rfl
    obtain ⟨adds, keeps⟩ := recording.assembly.feed_extends next.assembly line sound.waits read
    obtain ⟨addsMore, keepsMore⟩ :=
      inductionHypothesis next (feed_sound recording next line sound step) others
    exact ⟨adds.trans addsMore, fun place text shown =>
      keepsMore place text (keeps place text shown)⟩

end Recording

/-- How the events of a transcript compare with those of a longer one. The longer
    one has all of them but possibly the last. Those before the last are the same
    in everything but their results, and every result there is stays. -/
structure StayShown (events longer : List Event) : Prop where
  atLeast : events.length ≤ longer.length + 1
  same : ∀ place, place + 1 < events.length →
    (longer[place]?).map Event.bare = (events[place]?).map Event.bare
  results : ∀ place text, resultAt events place = some text → resultAt longer place = some text

/-- What is shown of a transcript stays when the transcript goes on.

Both readings pass through the assembly behind the shorter transcript. Its events
come first in both, and the shorter reading adds one at most. A result of the
shorter reading is shown by that assembly, if only by its open block, and the
longer reading leaves it shown. -/
theorem shown_events_stay [NestingLimits] (read unread : List Line) (events longer : List Event)
    (assembled : Assembly.ofLines read = .ok events)
    (further : Assembly.ofLines (read ++ unread) = .ok longer) : StayShown events longer := by
  obtain ⟨state, settled, fed, done, rfl⟩ := (Assembly.ofLines_eq_ok read events).mp assembled
  obtain ⟨last, finished, fedOn, doneOn, rfl⟩ :=
    (Assembly.ofLines_eq_ok (read ++ unread) longer).mp further
  obtain ⟨recording, recorded, rfl⟩ := Recording.fold_recorded read state fed
  obtain ⟨recordingOn, recordedOn, rfl⟩ := Recording.fold_recorded _ last fedOn
  rw [List.foldlM_append, recorded] at recordedOn
  have sound := (Recording.fold_sound read {} recording Recording.sound_empty recorded).1
  have soundOn := (Recording.fold_sound unread recording recordingOn sound recordedOn).1
  obtain ⟨adds, keeps⟩ := Recording.fold_extends unread recording recordingOn sound recordedOn
  have tidy : recording.assembly.Tidy := Assembly.fold_tidy read {} _ (fun _ => rfl) fed
  have here := (recording.assembly.settle_extends settled sound.waits done).trans
    settled.flush_extends
  have there := (adds.trans (recordingOn.assembly.settle_extends finished soundOn.waits
    doneOn)).trans finished.flush_extends
  have atMost := recording.assembly.length_settle_flush settled tidy done
  constructor
  case atLeast =>
    have kept := there.bare.length_le
    simp only [List.length_map] at kept
    omega
  case same =>
    intro place bounded
    have inside : place < (recording.assembly.events.map Event.bare).length := by
      rw [List.length_map]
      omega
    rw [← List.getElem?_map, ← List.getElem?_map]
    obtain ⟨fresh, first⟩ := here.bare
    obtain ⟨others, longerFirst⟩ := there.bare
    rw [← first, ← longerFirst, List.getElem?_append_left inside,
      List.getElem?_append_left inside]
  case results =>
    intro place text shown
    obtain ⟨fresh, flushed, _, _, none⟩ := settled.flush_tail
    rw [flushed, resultAt_fresh settled.events fresh none place] at shown
    have before := recording.assembly.shows_of_settle settled place text sound.waits done shown
    have after := recordingOn.assembly.settle_shows finished place text soundOn.waits doneOn
      (keeps place text before)
    exact finished.flush_extends.results place text after

namespace GrowingTranscript

/-- A transcript that ends inside the block of a stored memory. -/
def read : List Line :=
  ["App run 1", "─── memory_add | memory ───", "content: users",
    "Annotated \x7b", "    text: \"\x7b\\\"success\\\": true\x7d\","]

/-- The end of the block, and what follows it. -/
def unread : List Line := ["    meta: None", "\x7d", "Done.", "$ git push"]

end GrowingTranscript

open GrowingTranscript in
/-- The result that the unfinished block shows is there when the run has gone on. -/
theorem unfinished_block_stays_shown : ∃ events longer,
    Assembly.ofLines GrowingTranscript.read = .ok events ∧
      Assembly.ofLines (GrowingTranscript.read ++ unread) = .ok longer ∧
      events.map (·.result) = [none, some ("stored" : Text)] ∧ StayShown events longer := by
  have results : (Assembly.ofLines GrowingTranscript.read).toOption.map (List.map (·.result)) =
      some [none, some ("stored" : Text)] := by decide +kernel
  have goesOn : (Assembly.ofLines (GrowingTranscript.read ++ unread)).isOk = true := by
    decide +kernel
  cases assembled : Assembly.ofLines GrowingTranscript.read with
  | error reason => simp [assembled, Except.toOption] at results
  | ok events =>
    cases further : Assembly.ofLines (GrowingTranscript.read ++ unread) with
    | error reason => simp [further, Except.isOk, Except.toBool] at goesOn
    | ok longer =>
      rw [assembled] at results
      exact ⟨events, longer, rfl, rfl, Option.some.inj results,
        shown_events_stay GrowingTranscript.read unread events longer assembled further⟩

end AgentRuns
