import AgentRuns.Proofs.Event.Progress
import AgentRuns.Proofs.Transcript.Exclusion
import AgentRuns.Proofs.Transcript.Growth
import AgentRuns.Proofs.Transcript.Headings
import AgentRuns.Proofs.Transcript.Internals
import Mathlib.Data.List.Chain

/-!
# Reasoning

What a thought holds is prose: there is something to read in it, blanks and inner
fields of blocks are cleared away, and a text that still begins like the tail of
a block is not told at all. Inner fields are cleared away before the text is
stripped, and stripping makes none.

Prose gathers between two items and is told when the second one begins. As that
item is told in any case before prose gathers again, no thought stands beside
another one.
-/

namespace AgentRuns

/-- A text that is stripped and not empty, without blank lines and inner fields of
    blocks, that does not begin like the tail of a block. -/
structure Cleared (text : Text) : Prop where
  tight : Text.Tight text
  lines : ∀ line ∈ text.lines, line.leaksBlock = false ∧ Text.allBlank line = false
  opening : Line.debris? text = none

/-- Events whose thoughts are cleared and stand apart from one another. -/
structure Reasoned (events : List Event) : Prop where
  cleared : ∀ event ∈ events, event.kind = .agentThinking → Cleared event.content
  apart : events.IsChain fun event next =>
    event.kind = .agentThinking → next.kind ≠ .agentThinking

/-- The reasoning in kept lines is cleared. Blank lines are noise, so the kept lines have
    none. -/
theorem Event.cleared_of_reasoning? {log : List Line}
    (unbroken : ∀ line ∈ log, CodePoint.char '\n' ∉ line) (lines : List Line) (event : Event)
    (kept : Kept log lines) (spoken : reasoning? lines = some event) : Cleared event.content := by
  obtain ⟨someText, noDebris, rfl⟩ := (reasoning?_eq_some lines event).mp spoken
  have keptToo : Kept log (lines.filter (!·.leaksBlock)) := kept.filter _
  constructor
  case tight =>
    apply Text.tight_strip
    rwa [ne_eq, Text.strip_eq_nil, Bool.not_eq_true] at someText
  case lines =>
    intro line shown
    obtain ⟨place, found⟩ := List.mem_iff_getElem?.mp shown
    obtain ⟨raw, member, same⟩ := Text.line_of_strip _ (Text.ne_nil_of_strip_unlines _ someText)
      (keptToo.whole unbroken) keptToo.notBlank place line found
    have noField : raw.leaksBlock = false := by simpa using (List.mem_filter.mp member).2
    have notBlank := keptToo.notBlank raw member
    rcases same with rfl | rfl | ⟨_, rfl | rfl⟩
    · exact ⟨noField, notBlank⟩
    · exact ⟨by simpa using noField, Text.allBlank_stripEnd raw notBlank⟩
    · exact ⟨by simpa using noField, Text.allBlank_stripStart raw notBlank⟩
    · exact ⟨by simpa using noField, (Text.tight_strip raw notBlank).notBlank⟩
  case opening => exact noDebris

namespace Reasoned

/-- One more event behind others, which is no thought behind a thought. -/
theorem concat {events : List Event} (reasoned : Reasoned events) (event : Event)
    (cleared : event.kind = .agentThinking → Cleared event.content)
    (apart : (events.map Event.kind).getLast? = some .agentThinking →
      event.kind ≠ .agentThinking) : Reasoned (events ++ [event]) where
  cleared := by
    intro other member
    rcases List.mem_append.mp member with before | last
    · exact reasoned.cleared other before
    · rw [List.mem_singleton.mp last]
      exact cleared
  apart := by
    refine List.isChain_append.mpr ⟨reasoned.apart, List.isChain_singleton event, ?_⟩
    intro last isLast next isNext thought
    cases isNext
    apply apart
    rw [List.getLast?_map, isLast, Option.map_some, thought]

/-- A change of other fields than the kind and the content changes no thought. So being
    reasoned is told by those two fields. -/
theorem map_iff (events : List Event) (change : Event → Event)
    (kept : ∀ event, (change event).kind = event.kind ∧ (change event).content = event.content) :
    Reasoned (events.map change) ↔ Reasoned events := by
  have kind (event : Event) : (change event).kind = event.kind := (kept event).1
  have content (event : Event) : (change event).content = event.content := (kept event).2
  constructor
  · rintro ⟨cleared, apart⟩
    simp only [List.forall_mem_map, List.isChain_map, kind, content] at cleared apart
    exact ⟨cleared, apart⟩
  · rintro ⟨cleared, apart⟩
    constructor
    · simpa only [List.forall_mem_map, kind, content] using cleared
    · simpa only [List.isChain_map, kind] using apart

/-- Events that differ in such fields only are reasoned if one list of them is. -/
theorem congr {events others : List Event} (reasoned : Reasoned events) (change : Event → Event)
    (kept : ∀ event, (change event).kind = event.kind ∧ (change event).content = event.content)
    (same : others.map change = events.map change) : Reasoned others := by
  rw [← map_iff others change kept, same, map_iff events change kept]
  exact reasoned

end Reasoned

namespace Assembly

/-- An assembly whose events are reasoned, with no thought at the end unless an
    item is open that will be told behind it. -/
structure Reasoned (assembly : Assembly) : Prop where
  events : AgentRuns.Reasoned assembly.events
  rested : assembly.stage.heading? = none →
    (assembly.events.map Event.kind).getLast? ≠ some .agentThinking

namespace Reasoned

variable {assembly : Assembly} (reasoned : assembly.Reasoned)

include reasoned

/-- The events with that of the open item. It is no thought, so it may stand behind one. -/
theorem told : AgentRuns.Reasoned (assembly.events ++ assembly.stage.event?.toList) ∧
    ((assembly.events ++ assembly.stage.event?.toList).map Event.kind).getLast? ≠
      some .agentThinking := by
  cases opened : assembly.stage.event? with
  | none =>
    rw [Option.toList_none, List.append_nil]
    exact ⟨reasoned.events, reasoned.rested (assembly.stage.event?_eq_none.mp opened)⟩
  | some event =>
    have item := assembly.stage.kind_of_event? event opened
    constructor
    · exact reasoned.events.concat event (fun thought => absurd thought item) fun _ => item
    · simpa using item

/-- Settling leaves an assembly reasoned. Answers change neither kinds nor contents. -/
theorem settle [NestingLimits] {settled : Assembly} (done : assembly.settle = .ok settled) :
    settled.Reasoned := by
  have same := assembly.settle_bare settled done
  constructor
  case events => exact reasoned.told.1.congr Event.bare (fun _ => ⟨rfl, rfl⟩) same
  case rested =>
    intro _
    have kinds := congrArg (List.map Event.kind) same
    simp only [List.map_map] at kinds
    have last := reasoned.told.2
    exact fun thought => last (kinds ▸ thought)

/-- Prose is told behind an item. The last event is no thought there. -/
theorem flush (idle : assembly.stage = .between)
    (cleared : ∀ thought, Event.reasoning? assembly.thinking = some thought →
      Cleared thought.content) : AgentRuns.Reasoned assembly.flush.events := by
  have rested := reasoned.rested (by rw [idle]; rfl)
  rw [flush_events]
  cases spoken : Event.reasoning? assembly.thinking with
  | none =>
    rw [Option.toList_none, List.append_nil]
    exact reasoned.events
  | some thought =>
    exact reasoned.events.concat thought (fun _ => cleared thought spoken)
      fun last => absurd last rested

/-- A line that begins an item tells the prose, and the item will be told behind it. So two
    thoughts never meet. -/
theorem start (idle : assembly.stage = .between) (line : Line)
    (cleared : ∀ thought, Event.reasoning? assembly.thinking = some thought →
      Cleared thought.content) : (assembly.start line).Reasoned := by
  have flushed := reasoned.flush idle cleared
  rw [start_eq]
  cases line.heading? with
  | some heading =>
    cases heading with
    | run header =>
      have told := flushed.concat { kind := .info, content := header }
        (fun thought => by cases thought) fun _ => by simp
      exact ⟨told, by simp [begin, emit]⟩
    | call | command | session => exact ⟨flushed, fun none => by cases none⟩
  | none =>
    dsimp only
    split
    · exact reasoned
    · split <;> exact ⟨reasoned.events, fun _ => reasoned.rested (by rw [idle]; rfl)⟩

end Reasoned

variable {log : List Line} (unbroken : ∀ line ∈ log, CodePoint.char '\n' ∉ line)

include unbroken

/-- Every line leaves an assembly reasoned. That it is screened says of which lines the prose
    is made. -/
theorem Reasoned.feed [NestingLimits] {assembly fed : Assembly} (reasoned : assembly.Reasoned)
    (screened : assembly.Screened log) (line : Line) (done : assembly.feed line = .ok fed) :
    fed.Reasoned := by
  rcases assembly.feed_cases fed line done with ⟨stage, taken, rfl⟩ | ⟨_, settled, settles, rfl⟩
  · obtain ⟨same, _⟩ := assembly.stage.takes_cases stage line taken
    exact ⟨reasoned.events, fun closed => reasoned.rested (same.symm.trans closed)⟩
  · have idle := settle_stage assembly settled settles
    have kept := (screened.settle unbroken settles).thinking
    exact (reasoned.settle settles).start idle line fun thought spoken =>
      Event.cleared_of_reasoning? unbroken settled.thinking thought kept spoken

/-- Every reading of lines of the log leaves an assembly reasoned. The induction is on the
    lines. -/
theorem Reasoned.fold [NestingLimits] {assembly final : Assembly} (reasoned : assembly.Reasoned)
    (screened : assembly.Screened log) (lines : List Line) (inLog : ∀ line ∈ lines, line ∈ log)
    (done : lines.foldlM Assembly.feed assembly = .ok final) : final.Reasoned := by
  induction lines generalizing assembly with
  | nil =>
    cases done
    exact reasoned
  | cons line rest inductionHypothesis =>
    obtain ⟨next, step, others⟩ := ok_of_foldlM Assembly.feed line rest assembly final done
    exact inductionHypothesis (reasoned.feed unbroken screened line step)
      (screened.feed unbroken line (inLog line List.mem_cons_self) step)
      (fun other member => inLog other (List.mem_cons_of_mem line member)) others

/-- The events of a log are reasoned. The last prose is told behind the last item. -/
theorem reasoned_ofLines [NestingLimits] (events : List Event)
    (assembled : ofLines log = .ok events) :
    AgentRuns.Reasoned events := by
  obtain ⟨state, settled, fed, done, rfl⟩ := (ofLines_eq_ok log events).mp assembled
  have unread : Reasoned {} := ⟨⟨by simp, List.isChain_nil⟩, by simp⟩
  have read := unread.fold unbroken Screened.unread log (fun _ member => member) fed
  have screened := Screened.unread.fold unbroken log (fun _ member => member) fed
  have kept := (screened.settle unbroken done).thinking
  exact (read.settle done).flush (settle_stage state settled done) fun thought spoken =>
    Event.cleared_of_reasoning? unbroken settled.thinking thought kept spoken

end Assembly

/-- Every thought of a transcript is cleared, and no two thoughts stand side by side. Giving
    the events their places changes no thought. -/
theorem thoughts_are_cleared [NestingLimits] (log : Text) (events : List Event)
    (told : Transcript.events log = .ok events) : Reasoned events := by
  obtain ⟨assembled, ofLines, rfl⟩ := ok_of_map (Assembly.ofLines log.lines) Event.place events told
  have reasoned := Assembly.reasoned_ofLines (Text.unbroken_of_mem_lines log) assembled ofLines
  exact reasoned.congr Event.unplaced (fun _ => ⟨rfl, rfl⟩)
    (Event.unplaced_placeFrom roundedTenths _ 0 0 assembled)

namespace Cluttered

/-- Prose between items, with fields of a block in it and the tail of another one. -/
def log : Text := Text.unlines
  ["  Looking around. ", "    annotations: None,",
    "starting session | provider: openai model: gpt-4", "\"left over\",", "It is no thought.",
    "App run 1", "    meta: None", " Two lines,", "\tdone."]

/-- What the events report. -/
def contents : List (EventKind × Text) :=
  [(.agentThinking, "Looking around."), (.sessionStart, "Session started with openai / gpt-4"),
    (.info, "App run 1"), (.agentThinking, Text.unlines ["Two lines,", "\tdone."])]

end Cluttered

/-- The fields are cleared away and the tail is not told. -/
theorem cluttered_thoughts_are_cleared : ∃ events, Transcript.events Cluttered.log = .ok events ∧
    events.map (fun event => (event.kind, event.content)) = Cluttered.contents ∧
    Reasoned events := by
  have shown : (Transcript.events Cluttered.log).toOption.map
      (List.map fun event => (event.kind, event.content)) = some Cluttered.contents := by
    decide +kernel
  cases told : Transcript.events Cluttered.log with
  | error reason => simp [told, Except.toOption] at shown
  | ok events =>
    rw [told] at shown
    exact ⟨events, rfl, Option.some.inj shown, thoughts_are_cleared Cluttered.log events told⟩

end AgentRuns
