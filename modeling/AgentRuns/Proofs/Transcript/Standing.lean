import AgentRuns.Proofs.Transcript.Growth
import AgentRuns.Proofs.Transcript.Headings

/-!
# What stands at a place

Items are told in the order in which they begin. So the place of an item is known
when it begins, and what is read behind it does not move it: the headings of the
events told so far, with that of the open item, are those of the first events in
the end.

An event that does not wait for a result is not touched any more. This is so for
a call as soon as it is answered, also if the answer was an empty one.
-/

namespace AgentRuns

namespace Assembly

/-- An event that is told and does not wait for a result. -/
structure Rests (assembly : Assembly) (place : Nat) (event : Event) : Prop where
  stands : assembly.events[place]? = some event
  served : place ∉ assembly.pending

variable {assembly : Assembly} {place : Nat} {event : Event}

/-- Told events stand before those that are yet to come. -/
theorem Rests.inside (rests : assembly.Rests place event) : place < assembly.events.length :=
  (List.getElem?_eq_some_iff.mp rests.stands).1

/-- One more event leaves an event at rest as it is. It stands behind, and nobody joins the
    line. -/
theorem Rests.emit (rests : assembly.Rests place event) (next : Event) :
    (assembly.emit next).Rests place event where
  stands := by
    rw [Assembly.emit, List.getElem?_append_left rests.inside]
    exact rests.stands
  served := by
    unfold Assembly.emit
    dsimp only
    split
    · exact rests.served
    · exact List.not_mem_nil

/-- A further call leaves an event at rest as it is. It may join the line with a place of its
    own. -/
theorem Rests.announce (rests : assembly.Rests place event) (call : Call) :
    (assembly.announce call).Rests place event := by
  rw [announce_eq]
  constructor
  case stands =>
    dsimp only
    rw [List.getElem?_append_left rests.inside]
    exact rests.stands
  case served =>
    rw [mem_joining]
    rintro (waits | ⟨_, last⟩)
    · exact rests.served waits
    · exact Nat.ne_of_lt rests.inside last

/-- An answer leaves an event at rest as it is, since it goes to somebody who waits. -/
theorem Rests.resolve (rests : assembly.Rests place event) (summary : Text) :
    (assembly.resolve summary).Rests place event := by
  cases line : assembly.pending with
  | nil =>
    have unchanged : assembly.resolve summary = assembly := by simp [Assembly.resolve, line]
    rwa [unchanged]
  | cons call later =>
    have served := rests.served
    rw [line, List.mem_cons, not_or] at served
    rw [resolve_eq assembly summary call later line]
    refine ⟨?_, served.2⟩
    dsimp only
    simp [Ne.symm served.1, rests.stands]

/-- Telling the gathered prose leaves an event at rest as it is. -/
theorem Rests.flush (rests : assembly.Rests place event) : assembly.flush.Rests place event := by
  unfold Assembly.flush
  cases Event.reasoning? assembly.thinking with
  | none => exact ⟨rests.stands, rests.served⟩
  | some thought => exact ⟨(rests.emit thought).stands, (rests.emit thought).served⟩

/-- Telling the open item leaves an event at rest as it is. -/
theorem Rests.told (rests : assembly.Rests place event) : assembly.told.Rests place event := by
  have idle : ({ assembly with stage := .between } : Assembly).Rests place event :=
    ⟨rests.stands, rests.served⟩
  unfold Assembly.told
  cases assembly.stage with
  | between | detached => exact idle
  | session | command | commandBlock => exact idle.emit _
  | params | body | answer => exact idle.announce _

/-- Settling leaves an event at rest as it is. The open item is told, and somebody who waits
    is answered. -/
theorem Rests.settle [NestingLimits] (rests : assembly.Rests place event) (settled : Assembly)
    (done : assembly.settle = .ok settled) : settled.Rests place event := by
  rcases assembly.settle_cases settled done with rfl | ⟨summary, rfl⟩
  · exact rests.told
  · exact rests.told.resolve summary

/-- A line between items leaves an event at rest as it is. -/
theorem Rests.start (rests : assembly.Rests place event) (line : Line) :
    (assembly.start line).Rests place event := by
  have flushed := rests.flush
  rw [start_eq]
  cases line.heading? with
  | some heading =>
    cases heading with
    | run => exact flushed.emit _
    | call | command | session => exact ⟨flushed.stands, flushed.served⟩
  | none =>
    dsimp only
    split
    · exact rests
    · split <;> exact ⟨rests.stands, rests.served⟩

/-- A line leaves an event as it is that does not wait. -/
theorem Rests.feed [NestingLimits] (rests : assembly.Rests place event) (fed : Assembly)
    (line : Line) (done : assembly.feed line = .ok fed) : fed.Rests place event := by
  rcases assembly.feed_cases fed line done with ⟨stage, _, rfl⟩ | ⟨_, settled, settles, rfl⟩
  · exact ⟨rests.stands, rests.served⟩
  · exact (rests.settle settled settles).start line

/-- So does everything that is read behind it. The induction is on the lines. -/
theorem Rests.read [NestingLimits] (rests : assembly.Rests place event) (lines : List Line)
    (events : List Event) (told : assembly.read lines = .ok events) :
    events[place]? = some event := by
  induction lines generalizing assembly with
  | nil =>
    rw [read_nil] at told
    obtain ⟨settled, done, rfl⟩ := ok_of_map _ _ events told
    exact (rests.settle settled done).flush.stands
  | cons line lines inductionHypothesis =>
    rw [read_cons] at told
    obtain ⟨next, fed, others⟩ := ok_of_bind _ _ events told
    exact inductionHypothesis (rests.feed next line fed) others

/-- A call that is answered does not wait any more. It stood in line once. -/
theorem rests_answered (waits : Waits assembly.events assembly.pending) (call : Nat)
    (later : List Nat) (line : assembly.pending = call :: later) (summary : Text)
    (stands : assembly.events[call]? = some event) :
    (assembly.resolve summary).Rests call (event.answered summary) := by
  rw [resolve_eq assembly summary call later line]
  constructor
  case stands => simp [stands]
  case served =>
    have inOrder := waits.inOrder
    rw [line, List.pairwise_cons] at inOrder
    intro again
    exact Nat.lt_irrefl call (inOrder.1 call again)

/-- The headings of the events told so far, and that of the open item. -/
def outline (assembly : Assembly) : List (Option Heading) :=
  assembly.events.map Event.heading? ++ (assembly.stage.heading?.map some).toList

/-- The event of the open item has its heading. So telling the item leaves the outline as it
    is. -/
theorem told_outline (assembly : Assembly) :
    assembly.told.events.map Event.heading? = assembly.outline := by
  rw [told_events, List.map_append, outline, ← assembly.stage.heading?_event?,
    Option.toList_map]

variable [NestingLimits]

/-- Answers change no heading. So settling leaves the outline as it is. -/
theorem settle_outline (assembly settled : Assembly) (done : assembly.settle = .ok settled) :
    settled.events.map Event.heading? = assembly.outline := by
  rw [← told_outline]
  rcases assembly.settle_cases settled done with rfl | ⟨summary, rfl⟩
  · rfl
  · unfold resolve
    split
    · rfl
    · exact map_answered _ summary _ Event.heading? fun event => event.heading?_answered summary

/-- A line leaves the headings in their places. Further ones come behind. -/
theorem feed_outline (assembly fed : Assembly) (line : Line)
    (done : assembly.feed line = .ok fed) : assembly.outline <+: fed.outline := by
  rcases assembly.feed_cases fed line done with ⟨stage, taken, rfl⟩ | ⟨_, settled, settles, rfl⟩
  · obtain ⟨sameHeading, _⟩ := assembly.stage.takes_cases stage line taken
    simp [outline, sameHeading]
  · have headings : settled.events.map Event.heading? <+:
        (settled.start line).events.map Event.heading? := by
      have bare := (settled.start_extends line).bare.map Event.heading?
      simp only [List.map_map] at bare
      exact bare
    rw [← assembly.settle_outline settled settles]
    exact headings.trans (List.prefix_append _ _)

/-- So does everything that is read behind them. The induction is on the lines. -/
theorem fold_outline (lines : List Line) (assembly fed : Assembly)
    (done : lines.foldlM feed assembly = .ok fed) : assembly.outline <+: fed.outline := by
  induction lines generalizing assembly with
  | nil =>
    cases done
    exact List.prefix_refl _
  | cons line rest inductionHypothesis =>
    obtain ⟨next, step, others⟩ := ok_of_foldlM feed line rest assembly fed done
    exact (assembly.feed_outline next line step).trans (inductionHypothesis next others)

/-- The item that is open is told at the place behind all events told so far. The prose before
    it was told when it began. -/
theorem fold_stands (lines : List Line) (assembly state settled : Assembly) (heading : Heading)
    (opened : assembly.stage.heading? = some heading)
    (fed : lines.foldlM feed assembly = .ok state) (done : state.settle = .ok settled) :
    ∃ event, settled.events[assembly.events.length]? = some event ∧
      event.heading? = some heading := by
  obtain ⟨others, headings⟩ := assembly.fold_outline lines state fed
  rw [← state.settle_outline settled done] at headings
  have here := congrArg (·[assembly.events.length]?) headings
  simp only [outline, opened, Option.map_some, Option.toList_some, List.append_assoc,
    List.length_map, Nat.le_refl, List.getElem?_append_right, Nat.sub_self, List.cons_append,
    List.getElem?_cons_zero, List.getElem?_map] at here
  exact Option.map_eq_some_iff.mp here.symm

end Assembly

end AgentRuns
