import AgentRuns.Proofs.Transcript.Answering

/-!
# No heading is lost

Every event but reasoning tells of one heading, and every line that begins an
item has one. While a transcript is read the headings told so far, with the one
of the open item, are exactly those of the lines read so far, except for lines
inside a block. A block consumes whatever it takes, but it never takes a header
of a call: these are all told, wherever they stand.
-/

namespace AgentRuns

/-- The heading that an event tells of; reasoning has none. -/
def Event.heading? (event : Event) : Option Heading :=
  match event.kind with
  | .toolCall =>
    match event.tool, event.extension with
    | some tool, some extension => some (.call tool extension)
    | _, _ => none
  | .shellCommand | .phaseMarker => event.command.map .command
  | .sessionStart =>
    match event.provider, event.model with
    | some provider, some model => some (.session provider model)
    | _, _ => none
  | .info => some (.run event.content)
  | .agentThinking => none

/-- Only a call tells of a call's heading. The other kinds have headings of their own, and
    thoughts have none. -/
theorem Event.kind_of_call (event : Event) (tool extension : Text)
    (tells : event.heading? = some (.call tool extension)) : event.kind = .toolCall := by
  unfold heading? at tells
  split at tells
  · assumption
  · simp at tells
  · simp at tells
  · split at tells <;> simp at tells
  · simp at tells
  · cases tells

/-- The call that a heading announces. -/
def Heading.call? : Heading → Option (Text × Text)
  | .call tool extension => some (tool, extension)
  | _ => none

/-- A line announces a call exactly if it is a header. Noise is no obstacle, as no header is
    noise. -/
theorem Line.call?_heading? (line : Line) :
    line.heading?.bind Heading.call? = line.toolHeader? := by
  unfold heading?
  cases line.toolHeader? with
  | some call => rfl
  | none =>
    dsimp only
    split
    · rfl
    · split <;> rfl

/-- What the events tell of, reasoning aside. An event that should tell of a
    heading and does not is kept as such. -/
def toldHeadings (events : List Event) : List (Option Heading) :=
  (events.filter fun event => event.kind ≠ .agentThinking).map Event.heading?

/-- The headings of events are told one behind the other. -/
theorem toldHeadings_append (left right : List Event) :
    toldHeadings (left ++ right) = toldHeadings left ++ toldHeadings right := by
  simp [toldHeadings]

/-- The first event tells its heading, unless it is a thought. -/
theorem toldHeadings_cons (event : Event) (events : List Event) :
    toldHeadings (event :: events) =
      if event.kind = .agentThinking then toldHeadings events
      else event.heading? :: toldHeadings events := by
  unfold toldHeadings
  by_cases thought : event.kind = .agentThinking <;> simp [thought]

/-- An answer changes no heading. It sets the result, and headings are made of the other
    fields. -/
theorem Event.heading?_answered (event : Event) (summary : Text) :
    (event.answered summary).heading? = event.heading? := by
  unfold Event.answered
  split <;> rfl

/-- An answer changes none of the headings that are told. -/
theorem toldHeadings_answered (events : List Event) (place : Nat) (summary : Text) :
    toldHeadings (events.modify place (Event.answered summary)) = toldHeadings events := by
  induction events generalizing place with
  | nil => simp
  | cons event events inductionHypothesis =>
    cases place with
    | zero =>
      rw [List.modify_zero_cons, toldHeadings_cons, toldHeadings_cons,
        event.heading?_answered, answered_kind]
    | succ place =>
      rw [List.modify_succ_cons, toldHeadings_cons, toldHeadings_cons, inductionHypothesis]

namespace Stage

/-- The event of the open item tells of its heading. There is one case for each stage. -/
theorem heading?_event? (stage : Stage) :
    stage.event?.map Event.heading? = stage.heading?.map some := by
  cases stage with
  | between | detached | session | params | body | answer => rfl
  | command text | commandBlock text =>
    simp only [event?, Event.ofCommand, heading?]
    cases phase? text <;> rfl

/-- The open item is no thought. Prose is gathered between items and has no stage. -/
theorem kind_of_event? (stage : Stage) (event : Event) (opened : stage.event? = some event) :
    event.kind ≠ .agentThinking := by
  cases stage with
  | between | detached => cases opened
  | session | params | body | answer =>
    cases opened
    simp [Event.ofSession, Event.ofCall]
  | command text output | commandBlock text output =>
    cases opened
    rcases Event.kind_ofCommand text output with kind | kind <;> simp [kind]

/-- The stage behind a line. -/
def next (stage : Stage) (line : Line) : Stage :=
  (stage.takes? line).getD (({} : Assembly).start line).stage

/-- The lines that no block consumes when they are read from a stage on. -/
def unconsumed (stage : Stage) : List Line → List Line
  | [] => []
  | line :: rest =>
    if stage.consumes line then (stage.next line).unconsumed rest
    else line :: (stage.next line).unconsumed rest

/-- A block consumes no header of a call. A header stops a block that is open. -/
theorem toolHeader?_of_consumes (stage : Stage) (line : Line)
    (consumed : stage.consumes line = true) : line.toolHeader? = none := by
  unfold consumes at consumed
  cases isOpen : stage.block? with
  | none => simp [isOpen] at consumed
  | some block =>
    simp only [isOpen, Option.any_some, Block.takes, Bool.and_eq_true, Bool.not_eq_true',
      Line.isToolHeader, Option.isSome_eq_false_iff, Option.isNone_iff_eq_none] at consumed
    exact consumed.2

/-- All headers of calls are left over by the blocks. The induction is on the lines. -/
theorem toolHeaders_unconsumed (stage : Stage) (lines : List Line) :
    (stage.unconsumed lines).filterMap Line.toolHeader? = lines.filterMap Line.toolHeader? := by
  induction lines generalizing stage with
  | nil => rfl
  | cons line rest inductionHypothesis =>
    unfold unconsumed
    split
    · rename_i consumed
      rw [List.filterMap_cons_none (stage.toolHeader?_of_consumes line consumed)]
      exact inductionHypothesis (stage.next line)
    · rw [List.filterMap_cons, List.filterMap_cons, inductionHypothesis]

end Stage

namespace Assembly

/-- The headings told so far and the one of the open item. -/
def headings (assembly : Assembly) : List (Option Heading) :=
  toldHeadings assembly.events ++ (assembly.stage.heading?.map some).toList

/-- Telling the gathered prose tells no heading. -/
theorem headings_flush (assembly : Assembly) :
    toldHeadings assembly.flush.events = toldHeadings assembly.events := by
  rw [flush_events, toldHeadings_append]
  cases spoken : Event.reasoning? assembly.thinking with
  | none => exact List.append_nil _
  | some event =>
    obtain ⟨_, _, rfl⟩ := (Event.reasoning?_eq_some _ event).mp spoken
    simp [toldHeadings]

/-- The event of the open item tells of its heading. So telling the item tells what was
    counted for it before. -/
theorem headings_told (assembly : Assembly) :
    toldHeadings assembly.told.events = assembly.headings := by
  rw [told_events, toldHeadings_append, headings, ← assembly.stage.heading?_event?]
  cases opened : assembly.stage.event? with
  | none => rfl
  | some event => simp [toldHeadings, assembly.stage.kind_of_event? event opened]

/-- Settling tells of the heading of the open item, and answers change none. -/
theorem headings_settle [NestingLimits] (assembly settled : Assembly)
    (done : assembly.settle = .ok settled) :
    toldHeadings settled.events = assembly.headings := by
  rcases assembly.settle_cases settled done with rfl | ⟨summary, rfl⟩
  · exact assembly.headings_told
  · rw [← headings_told]
    unfold resolve
    split
    · rfl
    · exact toldHeadings_answered _ _ summary

/-- A line between items adds its heading, if it has one. The prose that is told before has
    none. -/
theorem headings_start (assembly : Assembly) (line : Line) (idle : assembly.stage = .between) :
    (assembly.start line).headings =
      toldHeadings assembly.events ++ (line.heading?.map some).toList := by
  have closed : assembly.stage.heading? = none := by rw [idle]; rfl
  rw [start_eq]
  cases line.heading? with
  | some heading =>
    cases heading with
    | run header =>
      have told := toldHeadings_append assembly.flush.events [{ kind := .info, content := header }]
      have last : toldHeadings [{ kind := .info, content := header }] =
          [some (.run header)] := rfl
      rw [headings_flush, last] at told
      simpa [begin, headings, emit, closed] using told
    | call | command | session => simp [begin, headings, Stage.heading?, headings_flush]
  | none =>
    have detached : (Stage.detached (Block.start line)).heading? = none := rfl
    dsimp only
    split
    · simp [headings, closed]
    · split <;> simp [headings, detached, closed]

/-- What opens between items does not depend on what was read before. The line alone decides
    on it. -/
theorem stage_start (assembly other : Assembly) (line : Line) (idle : assembly.stage = .between)
    (otherIdle : other.stage = .between) :
    (assembly.start line).stage = (other.start line).stage := by
  rw [start_eq, start_eq]
  cases line.heading? with
  | some heading => cases heading <;> simp [begin, idle, otherIdle]
  | none =>
    dsimp only
    split
    · rw [idle, otherIdle]
    · split
      · rfl
      · exact idle.trans otherIdle.symm

/-- The stage behind a line does not depend on what was read before. The stage before it and
    the line decide on it. -/
theorem stage_feed [NestingLimits] (assembly fed : Assembly) (line : Line)
    (done : assembly.feed line = .ok fed) : fed.stage = assembly.stage.next line := by
  unfold Stage.next
  rcases assembly.feed_cases fed line done with
    ⟨stage, taken, rfl⟩ | ⟨refused, settled, settles, rfl⟩
  · rw [taken]
    rfl
  · rw [refused]
    exact stage_start settled {} line (settle_stage assembly settled settles) rfl

/-- One line adds the heading that it has, unless a block consumes it. -/
theorem headings_feed [NestingLimits] (assembly fed : Assembly) (line : Line)
    (done : assembly.feed line = .ok fed) :
    fed.headings = assembly.headings ++
      if assembly.stage.consumes line then [] else (line.heading?.map some).toList := by
  rcases assembly.feed_cases fed line done with
    ⟨stage, taken, rfl⟩ | ⟨refused, settled, settles, rfl⟩
  · obtain ⟨same, inside⟩ := assembly.stage.takes_cases stage line taken
    have nothing : (if assembly.stage.consumes line then []
        else (line.heading?.map some).toList) = [] := by
      rcases inside with ⟨block, isOpen, takes, _⟩ | ⟨_, none, _⟩
      · simp [Stage.consumes, isOpen, takes]
      · simp [none]
    rw [nothing, List.append_nil]
    simp only [headings, same]
  · have outside := assembly.stage.consumes_of_refused line refused
    rw [headings_start settled line (settle_stage assembly settled settles),
      headings_settle assembly settled settles, if_neg (Bool.eq_false_iff.mp outside)]

/-- The lines of a reading add their headings, except for those in blocks. The induction is on
    the lines. -/
theorem headings_fold [NestingLimits] (lines : List Line) (assembly fed : Assembly)
    (done : lines.foldlM feed assembly = .ok fed) :
    fed.headings = assembly.headings ++
      ((assembly.stage.unconsumed lines).filterMap Line.heading?).map some := by
  induction lines generalizing assembly with
  | nil =>
    cases done
    exact (List.append_nil _).symm
  | cons line rest inductionHypothesis =>
    obtain ⟨next, step, others⟩ := ok_of_foldlM feed line rest assembly fed done
    rw [inductionHypothesis next others, headings_feed assembly next line step,
      stage_feed assembly next line step, Stage.unconsumed, List.append_assoc]
    split
    · rfl
    · cases begins : line.heading? <;> simp [begins]

end Assembly

/-- Where every event tells of the heading it should, the calls among the events
    are those among the headings. -/
theorem told_calls (events : List Event) (headings : List Heading)
    (told : toldHeadings events = headings.map some) :
    (events.filter fun event => event.kind = .toolCall).map
        (fun event => (event.tool, event.extension)) =
      (headings.filterMap Heading.call?).map fun call => (some call.1, some call.2) := by
  induction events generalizing headings with
  | nil =>
    rw [List.map_eq_nil_iff.mp told.symm]
    rfl
  | cons event events inductionHypothesis =>
    rw [toldHeadings_cons] at told
    split at told
    · rename_i thought
      rw [List.filter_cons_of_neg (by simp [thought])]
      exact inductionHypothesis headings told
    · cases headings with
      | nil => cases told
      | cons heading headings =>
        obtain ⟨tells, others⟩ := List.cons.inj told
        have further := inductionHypothesis headings others
        by_cases isCall : event.kind = .toolCall
        · rw [List.filter_cons_of_pos (by simp [isCall]), List.map_cons, further]
          simp only [Event.heading?, isCall] at tells
          split at tells
          · rename_i tool extension hasTool hasExtension
            cases tells
            rw [hasTool, hasExtension]
            rfl
          · cases tells
        · rw [List.filter_cons_of_neg (by simp [isCall]), further]
          have noCall : heading.call? = none := by
            cases heading with
            | command | session | run => rfl
            | call tool extension => exact absurd (event.kind_of_call tool extension tells) isCall
          rw [List.filterMap_cons_none noCall]

/-- How the headings of a transcript are told. After any number of lines, the
    headings told so far with the one of the open item are those of the lines that
    no block consumed. In the end the events other than reasoning tell of exactly
    these headings, and the calls of all headers there are. -/
structure HeadingsTold [NestingLimits] (log : Text) (events : List Event) : Prop where
  reading : ∀ read unread, log.lines = read ++ unread → ∃ state,
    read.foldlM Assembly.feed {} = .ok state ∧
      state.headings = ((Stage.between.unconsumed read).filterMap Line.heading?).map some
  items : (events.filter fun event => event.kind ≠ .agentThinking).map Event.heading? =
    ((Stage.between.unconsumed log.lines).filterMap Line.heading?).map some
  calls : (events.filter fun event => event.kind = .toolCall).map
      (fun event => (event.tool, event.extension)) =
    (log.lines.filterMap Line.toolHeader?).map fun call => (some call.1, some call.2)

/-- No heading of a transcript is lost, told twice or made up. This is the law of whole
    readings, from the empty assembly to the told events. -/
theorem headings_are_told [NestingLimits] (log : Text) (events : List Event)
    (assembled : Assembly.ofLines log.lines = .ok events) : HeadingsTold log events := by
  obtain ⟨state, settled, fed, done, rfl⟩ :=
    (Assembly.ofLines_eq_ok log.lines events).mp assembled
  have items : toldHeadings settled.flush.events =
      ((Stage.between.unconsumed log.lines).filterMap Line.heading?).map some := by
    rw [Assembly.headings_flush, Assembly.headings_settle state settled done,
      Assembly.headings_fold log.lines {} state fed]
    rfl
  constructor
  case reading =>
    intro read unread split
    rw [split] at fed
    obtain ⟨middle, part, _⟩ := Assembly.foldlM_part read unread {} state fed
    exact ⟨middle, part, Assembly.headings_fold read {} middle part⟩
  case items => exact items
  case calls =>
    rw [told_calls settled.flush.events _ items, List.filterMap_filterMap]
    simp only [Line.call?_heading?]
    rw [Stage.toolHeaders_unconsumed]

/-- A block without an end consumes a command and leaves the next header over. -/
def corruptedLog : Text := Text.unlines
  ["App run 1", "─── shell | developer ───", "command: ls", "Annotated \x7b", "$ git push",
    "─── memory_add | memory ───", "done", "$ ls"]

/-- The command inside the block is no heading; both calls are told. -/
theorem corrupted_log_headings : ∃ events,
    Assembly.ofLines corruptedLog.lines = .ok events ∧
      events.map Event.heading? =
        [some (.run "App run 1"), some (.call "shell" "developer"),
          some (.call "memory_add" "memory"), some (.command "ls")] ∧
      HeadingsTold corruptedLog events := by
  have tells : (Assembly.ofLines corruptedLog.lines).toOption.map (List.map Event.heading?) =
      some [some (.run "App run 1"), some (.call "shell" "developer"),
        some (.call "memory_add" "memory"), some (.command "ls")] := by decide +kernel
  cases assembled : Assembly.ofLines corruptedLog.lines with
  | error reason => simp [assembled, Except.toOption] at tells
  | ok events =>
    rw [assembled] at tells
    exact ⟨events, rfl, Option.some.inj tells, headings_are_told corruptedLog events assembled⟩

end AgentRuns
