import AgentRuns.Event.Stats
import AgentRuns.Proofs.Table

/-!
# Statistics add up

Statistics are gathered event by event. At every event they say how many events of each
group of kinds there were, and which tools were called how often, the tool that was
called first in front. Both are told by the events as a whole, so the statistics of two
sequences one behind the other are those of the first with those of the second added:
a tool keeps the place where it first appeared, and new ones stand below.

Every call is counted under one name, so the counts of the tools make up the calls, and
every event belongs to one group of kinds, so the groups make up the whole.
-/

namespace AgentRuns

/-- A further item is the last one of those without repetition, unless it came before. So
    counting goes on at the end of a list. -/
theorem eraseDups_concat {α : Type} [BEq α] [LawfulBEq α] (items : List α) (item : α) :
    (items ++ [item]).eraseDups =
      if item ∈ items then items.eraseDups else items.eraseDups ++ [item] := by
  rw [List.eraseDups_append]
  by_cases before : item ∈ items
  · simp [List.removeAll, before]
  · simp [List.removeAll, before, List.eraseDups_cons]

/-- Nothing is repeated among items without repetition. -/
theorem nodup_eraseDups {α : Type} [BEq α] [LawfulBEq α] (items : List α) :
    items.eraseDups.Nodup := by
  induction items using List.reverseRecOn with
  | nil => simp
  | append_singleton items item inductionHypothesis =>
    rw [eraseDups_concat]
    split
    · exact inductionHypothesis
    · rename_i fresh
      rw [List.nodup_append]
      refine ⟨inductionHypothesis, by simp, ?_⟩
      intro other member last isLast
      rw [List.mem_singleton.mp isLast]
      rintro rfl
      exact fresh (List.mem_eraseDups.mp member)

/-- Items of a kind are left in the order in which they first appear among all. Items of other
    kinds between them make no difference. -/
theorem eraseDups_filter {α : Type} [BEq α] [LawfulBEq α] (kind : α → Bool) (items : List α) :
    (items.filter kind).eraseDups = items.eraseDups.filter kind := by
  induction items using List.reverseRecOn with
  | nil => rfl
  | append_singleton items item inductionHypothesis =>
    rw [eraseDups_concat, List.filter_append]
    by_cases ofKind : kind item = true
    · rw [List.filter_cons_of_pos ofKind, List.filter_nil, eraseDups_concat, inductionHypothesis]
      by_cases before : item ∈ items
      · simp [before, ofKind]
      · simp [before, ofKind]
    · rw [List.filter_cons_of_neg ofKind, List.filter_nil, List.append_nil, inductionHypothesis]
      split
      · rfl
      · simp [ofKind]

namespace EventStats

/-- The names under which calls are counted, one for each call. A call without a name, or
    with an empty one, is unknown. -/
def calledTools (events : List Event) : List Text :=
  (events.filter fun event => event.kind = .toolCall).map fun event =>
    (Text.present? event.tool).getD "unknown"

/-- Names with how often each of them occurs, in the order in which they first appear. -/
def counted (names : List Text) : Table Int :=
  names.eraseDups.map fun name => (name, (names.count name : Int))

/-- The counts of two tables: those of the first, in its order, with the second's added,
    and below them what the second counts alone, in its order. -/
def together (table further : Table Int) : Table Int :=
  table.map (fun entry => (entry.1, entry.2 + (further.get? entry.1).getD 0)) ++
    further.filter fun entry => entry.1 ∉ table.map Prod.fst

/-- A name is counted as often as it occurs. One that does not occur is not listed, which
    counts as zero. -/
theorem get?_counted (names : List Text) (name : Text) :
    ((counted names).get? name).getD 0 = names.count name := by
  rw [counted, Table.get?_keyed]
  by_cases listed : name ∈ names
  · simp [listed]
  · simp [listed, List.count_eq_zero_of_not_mem]

/-- The names are listed in the order in which they first appear, each once. -/
theorem keys_counted (names : List Text) : (counted names).map Prod.fst = names.eraseDups := by
  simp [counted, Function.comp_def]

/-- A further name is counted once more. A new one is listed behind the others. -/
theorem tally_counted (names : List Text) (name : Text) :
    (counted names).tally name = counted (names ++ [name]) := by
  rw [Table.tally, get?_counted]
  by_cases before : name ∈ names
  · rw [counted, Table.put_keyed _ _ _ _ (nodup_eraseDups names) (List.mem_eraseDups.mpr before),
      counted, eraseDups_concat, if_pos before]
    apply List.map_congr_left
    intro other _
    by_cases same : other = name
    · simp [same]
    · have apart : name ≠ other := fun equal => same equal.symm
      simp [same, apart]
  · have fresh : name ∉ (counted names).map Prod.fst := by
      rw [keys_counted, List.mem_eraseDups]
      exact before
    have none : names.count name = 0 := List.count_eq_zero_of_not_mem before
    rw [Table.put_fresh _ _ _ fresh, counted, counted, eraseDups_concat, if_neg before,
      List.map_append]
    congr 1
    · apply List.map_congr_left
      intro other member
      have apart : name ≠ other := by
        rintro rfl
        exact before (List.mem_eraseDups.mp member)
      simp [apart]
    · simp [none]

/-- Names behind others are counted together with them. This is how statistics of two parts
    are those of the whole. -/
theorem counted_append (names further : List Text) :
    counted (names ++ further) = together (counted names) (counted further) := by
  have alone : (further.removeAll names).eraseDups =
      further.eraseDups.filter fun name => name ∉ names.eraseDups := by
    rw [List.removeAll, eraseDups_filter]
    apply List.filter_congr
    simp
  rw [together, keys_counted, counted, List.eraseDups_append, List.map_append, alone]
  congr 1
  · simp only [get?_counted]
    rw [counted, List.map_map]
    apply List.map_congr_left
    intro name _
    simp [List.count_append]
  · rw [counted, List.filter_map]
    apply List.map_congr_left
    intro name member
    have absent : name ∉ names := by simpa using (List.mem_filter.mp member).2
    simp [List.count_append, List.count_eq_zero_of_not_mem absent]

/-- The statistics of events say how many there are of each group of kinds, and how often
    each tool was called. -/
structure Tells (stats : EventStats) (events : List Event) : Prop where
  total : stats.totalEvents = events.length
  calls : stats.toolCalls = events.countP (·.kind = .toolCall)
  thoughts : stats.thinkingBlocks = events.countP (·.kind = .agentThinking)
  commands : stats.shellCommands =
    events.countP fun event => event.kind = .shellCommand ∨ event.kind = .phaseMarker
  tools : stats.tools = counted (calledTools events)

/-- A call is counted under its tool, and under one common name if it has none or an empty
    one. -/
theorem toolName_eq (event : Event) :
    toolName event = (Text.present? event.tool).getD "unknown" := by
  rw [toolName, Text.orElse]
  cases event.tool with
  | none => rfl
  | some name => cases name <;> rfl

/-- One more event is counted with the others. The statistics are kept event by event, and
    each of them touches the counts of its kind alone. -/
theorem Tells.add {stats : EventStats} {events : List Event} (tells : Tells stats events)
    (event : Event) : Tells (stats.add event) (events ++ [event]) := by
  obtain ⟨total, calls, thoughts, commands, tools⟩ := tells
  constructor
  case total => cases kind : event.kind <;> simp [EventStats.add, kind, total]
  case calls => cases kind : event.kind <;> simp [EventStats.add, kind, calls]
  case thoughts => cases kind : event.kind <;> simp [EventStats.add, kind, thoughts]
  case commands => cases kind : event.kind <;> simp [EventStats.add, kind, commands]
  case tools =>
    cases kind : event.kind <;>
      simp [EventStats.add, kind, tools, calledTools, tally_counted, toolName_eq]

/-- The statistics of events tell them. They begin with none, and each event is added in its
    turn. -/
theorem tells_ofEvents (events : List Event) : Tells (ofEvents events) events := by
  unfold ofEvents
  induction events using List.reverseRecOn with
  | nil => exact ⟨rfl, rfl, rfl, rfl, rfl⟩
  | append_singleton events event inductionHypothesis =>
    rw [List.foldl_append]
    exact inductionHypothesis.add event

/-- All counts of names together are as many as there are names. -/
theorem sum_counted (names : List Text) :
    ((counted names).map Prod.snd).sum = (names.length : Int) := by
  induction names using List.reverseRecOn with
  | nil => rfl
  | append_singleton names name inductionHypothesis =>
    rw [← tally_counted, Table.sum_tally, inductionHypothesis]
    simp

/-- A name that is counted at all is counted at least once. No name is listed with a zero. -/
theorem positive_counted (names : List Text) : ∀ entry ∈ counted names, 0 < entry.2 := by
  intro entry member
  obtain ⟨name, listed, rfl⟩ := List.mem_map.mp member
  have present : 0 < names.count name := List.count_pos_iff.mpr (List.mem_eraseDups.mp listed)
  exact Int.natCast_pos.mpr present

/-- Every event is a call, a thought, a command, or the start of a session or a run. No event
    is two of these, so the four counts add up to all. -/
theorem countP_groups (events : List Event) :
    events.countP (·.kind = .toolCall) + events.countP (·.kind = .agentThinking) +
      events.countP (fun event => event.kind = .shellCommand ∨ event.kind = .phaseMarker) +
      events.countP (fun event => event.kind = .sessionStart ∨ event.kind = .info) =
    events.length := by
  induction events with
  | nil => rfl
  | cons event events inductionHypothesis =>
    simp only [List.countP_cons, List.length_cons, ← inductionHypothesis]
    cases kind : event.kind <;> simp <;> omega

/-- Statistics whose parts make up the whole: the counts of the tools make up the calls, and
    the groups of kinds make up the events. -/
structure Balanced (stats : EventStats) (events : List Event) : Prop
    extends Tells stats events where
  positive : ∀ entry ∈ stats.tools, 0 < entry.2
  byTool : (stats.tools.map Prod.snd).sum = stats.toolCalls
  byKind : stats.toolCalls + stats.thinkingBlocks + stats.shellCommands +
    events.countP (fun event => event.kind = .sessionStart ∨ event.kind = .info) =
      stats.totalEvents

/-- Statistics that are those of a first part with those of a second one added. -/
structure AddUp (first second whole : EventStats) : Prop where
  totalEvents : whole.totalEvents = first.totalEvents + second.totalEvents
  toolCalls : whole.toolCalls = first.toolCalls + second.toolCalls
  thinkingBlocks : whole.thinkingBlocks = first.thinkingBlocks + second.thinkingBlocks
  shellCommands : whole.shellCommands = first.shellCommands + second.shellCommands
  tools : whole.tools = together first.tools second.tools

/-- The statistics of events make up a whole, and those of two sequences one behind the
    other are the sums of theirs. -/
theorem statistics_add_up (events : List Event) :
    Balanced (ofEvents events) events ∧
      ∀ further, AddUp (ofEvents events) (ofEvents further) (ofEvents (events ++ further)) := by
  have tells := tells_ofEvents events
  constructor
  · constructor
    case toTells => exact tells
    case positive =>
      rw [tells.tools]
      exact positive_counted _
    case byTool =>
      rw [tells.tools, tells.calls, sum_counted, calledTools, List.length_map,
        List.countP_eq_length_filter]
    case byKind =>
      rw [tells.total, tells.calls, tells.thoughts, tells.commands]
      exact_mod_cast countP_groups events
  · intro further
    have others := tells_ofEvents further
    have whole := tells_ofEvents (events ++ further)
    constructor
    case totalEvents => simp [whole.total, tells.total, others.total]
    case toolCalls => simp [whole.calls, tells.calls, others.calls]
    case thinkingBlocks => simp [whole.thoughts, tells.thoughts, others.thoughts]
    case shellCommands => simp [whole.commands, tells.commands, others.commands]
    case tools =>
      rw [whole.tools, tells.tools, others.tools, ← counted_append]
      simp [calledTools]

/-- A tool that was called before keeps its place, a new one stands below. -/
example : together [("shell", 2), ("unknown", 1)] [("grep", 1), ("shell", 3)] =
    ([("shell", 5), ("unknown", 1), ("grep", 1)] : Table Int) := by decide

end EventStats

end AgentRuns
