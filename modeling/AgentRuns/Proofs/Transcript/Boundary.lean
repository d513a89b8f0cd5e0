import AgentRuns.Proofs.Transcript.Answering

/-!
# Boundaries of a reading

Whatever was told before stays in front and is not looked at again: reading goes
on behind earlier events as it goes on from the beginning, with the places of
waiting calls counted from there. The one thing that crosses is the line of
waiting calls, and a command, a session or a run header abandons it. From such a
line on a transcript therefore reads as if it began there, whatever was settled
before. Two transcripts one behind the other are told one behind the other, unless
the first one breaks off inside a block, which would go on into the second.
-/

namespace AgentRuns

/-- Whether what the heading begins is told as no call, so that whoever waits is
    abandoned. -/
def Heading.abandons : Heading → Bool
  | .call .. => false
  | .command .. | .session .. | .run .. => true

/-- Whether the line begins an item other than a call. -/
def Line.abandons (line : Line) : Bool :=
  !line.isNoise &&
    ((line.command?).isSome || (line.session?).isSome || (line.runHeader?).isSome)

/-- A line that begins an item other than a call has the heading of one. No test that comes
    before finds a call in it. -/
theorem Line.heading?_of_abandons (line : Line) (abandons : line.abandons = true) :
    ∃ heading, line.heading? = some heading ∧ heading.abandons = true := by
  simp only [Line.abandons, Bool.and_eq_true, Bool.not_eq_true', Bool.or_eq_true] at abandons
  obtain ⟨loud, begins⟩ := abandons
  rcases begins with (command | session) | run
  · obtain ⟨text, found⟩ := Option.isSome_iff_exists.mp command
    exact ⟨.command text, line.heading?_of_command? text found loud, rfl⟩
  · obtain ⟨⟨provider, model⟩, found⟩ := Option.isSome_iff_exists.mp session
    exact ⟨.session provider model, line.heading?_of_session? provider model found loud, rfl⟩
  · obtain ⟨id, found⟩ := Option.isSome_iff_exists.mp run
    exact ⟨.run line, line.heading?_of_runHeader? id found loud, rfl⟩

/-- Whether the open item is told as an event that abandons whoever waits. -/
def Stage.abandons (stage : Stage) : Bool := stage.heading?.any (·.abandons)

namespace Assembly

/-- The assembly with events in front of its own. -/
def behind (assembly : Assembly) (earlier : List Event) : Assembly :=
  { assembly with
    events := earlier ++ assembly.events
    pending := assembly.pending.map (earlier.length + ·) }

/-- One more event is told behind the earlier ones. Whether the others go on waiting is told
    by its kind. -/
theorem emit_behind (assembly : Assembly) (earlier : List Event) (event : Event) :
    (assembly.behind earlier).emit event = (assembly.emit event).behind earlier := by
  simp only [emit, behind, List.append_assoc]
  split <;> rfl

/-- The gathered prose is told behind the earlier events. -/
theorem flush_behind (assembly : Assembly) (earlier : List Event) :
    (assembly.behind earlier).flush = assembly.flush.behind earlier := by
  have thinking : (assembly.behind earlier).thinking = assembly.thinking := rfl
  simp only [flush, thinking]
  cases Event.reasoning? assembly.thinking with
  | none => rfl
  | some event =>
    simp only [emit_behind]
    rfl

/-- A call is told behind the earlier events, and it waits with its place behind them. -/
theorem announce_behind (assembly : Assembly) (earlier : List Event) (call : Call) :
    (assembly.behind earlier).announce call = (assembly.announce call).behind earlier := by
  simp only [announce, emit_behind]
  split
  · simp [behind]
  · rfl

/-- An answer goes to the same event, whose place is moved. -/
theorem resolve_behind (assembly : Assembly) (earlier : List Event) (summary : Text) :
    (assembly.behind earlier).resolve summary = (assembly.resolve summary).behind earlier := by
  cases line : assembly.pending with
  | nil => simp [resolve, behind, line]
  | cons place later => simp [resolve, behind, line, modify_behind]

/-- The open item is told behind the earlier events. -/
theorem told_behind (assembly : Assembly) (earlier : List Event) :
    (assembly.behind earlier).told = assembly.told.behind earlier := by
  have sameStage : (assembly.behind earlier).stage = assembly.stage := rfl
  have idle : ({ assembly.behind earlier with stage := .between } : Assembly) =
      ({ assembly with stage := .between } : Assembly).behind earlier := rfl
  simp only [told, sameStage, idle, emit_behind, announce_behind]
  split <;> rfl

/-- Which block is captured does not depend on earlier events. It asks only whether anybody
    waits. -/
theorem captured?_behind (assembly : Assembly) (earlier : List Event) :
    (assembly.behind earlier).captured? = assembly.captured? := by
  obtain ⟨events, thinking, pending, stage⟩ := assembly
  cases stage <;> simp [captured?, behind]

/-- Settling tells its item behind the earlier events. It fails where it fails without them. -/
theorem settle_behind [NestingLimits] (assembly : Assembly) (earlier : List Event) :
    (assembly.behind earlier).settle = assembly.settle.map (·.behind earlier) := by
  rw [settle_eq, settle_eq, captured?_behind, told_behind]
  cases assembly.captured? with
  | none => rfl
  | some block =>
    dsimp only
    cases Summary.ofBlock block with
    | error reason => rfl
    | ok summary => exact congrArg Except.ok (resolve_behind assembly.told earlier summary)

/-- An item begins behind earlier events as it does without them. -/
theorem begin_behind (assembly : Assembly) (earlier : List Event) (heading : Heading) :
    (assembly.behind earlier).begin heading = (assembly.begin heading).behind earlier := by
  cases heading <;> simp only [begin, flush_behind, emit_behind] <;> rfl

/-- A line between items is read behind earlier events as it is without them. -/
theorem start_behind (assembly : Assembly) (earlier : List Event) (line : Line) :
    (assembly.behind earlier).start line = (assembly.start line).behind earlier := by
  rw [start_eq, start_eq]
  cases line.heading? with
  | some heading => exact begin_behind assembly earlier heading
  | none =>
    dsimp only
    split
    · rfl
    · split <;> rfl

/-- One assembly goes on like another behind earlier events. Who waits may
    differ while an item is read that abandons them. -/
def Continues (whole part : Assembly) (earlier : List Event) : Prop :=
  whole = part.behind earlier ∨
    part.stage.abandons = true ∧ ∃ waiting, whole = { part.behind earlier with pending := waiting }

section

variable [NestingLimits]

/-- Once the item is settled that abandons them, nobody waits. So it does not matter who
    waited before. -/
theorem settle_abandoned (assembly : Assembly) (waiting : List Nat)
    (abandons : assembly.stage.abandons = true) :
    ({ assembly with pending := waiting } : Assembly).settle = assembly.settle := by
  obtain ⟨events, thinking, pending, stage⟩ := assembly
  cases stage with
  | between | detached | params | body | answer => cases abandons
  | session => rfl
  | command text | commandBlock text =>
    have notCall : (Event.ofCommand text ‹_›).kind ≠ .toolCall := by
      unfold Event.ofCommand
      dsimp only
      split <;> simp
    simp [settle, emit, notCall]

/-- An assembly that goes on like another is settled like it. From here on the two are alike
    but for the earlier events. -/
theorem settle_continues (whole part : Assembly) (earlier : List Event)
    (continues : whole.Continues part earlier) :
    whole.settle = part.settle.map (·.behind earlier) := by
  rcases continues with rfl | ⟨abandons, waiting, rfl⟩
  · exact settle_behind part earlier
  · rw [settle_abandoned (part.behind earlier) waiting abandons]
    exact settle_behind part earlier

/-- Whatever goes on like another is read to the same events behind the earlier
    ones. -/
theorem read_continues (lines : List Line) (whole part : Assembly) (earlier : List Event)
    (continues : whole.Continues part earlier) :
    whole.read lines = (part.read lines).map (earlier ++ ·) := by
  induction lines generalizing whole part with
  | nil =>
    rw [read_nil, read_nil, settle_continues whole part earlier continues]
    cases part.settle with
    | error reason => rfl
    | ok settled =>
      have last : (settled.behind earlier).flush.events = earlier ++ settled.flush.events := by
        rw [flush_behind]
        rfl
      exact congrArg Except.ok last
  | cons line rest inductionHypothesis =>
    have sameStage : whole.stage = part.stage := by
      rcases continues with rfl | ⟨_, _, rfl⟩ <;> rfl
    cases taken : part.stage.takes? line with
    | some stage =>
      rw [read_taken part line rest stage taken,
        read_taken whole line rest stage (sameStage ▸ taken)]
      apply inductionHypothesis
      obtain ⟨sameHeading, _⟩ := part.stage.takes_cases stage line taken
      rcases continues with rfl | ⟨abandons, waiting, rfl⟩
      · exact Or.inl rfl
      · refine Or.inr ⟨?_, waiting, rfl⟩
        simpa only [Stage.abandons, sameHeading] using abandons
    | none =>
      rw [read_refused part line rest taken,
        read_refused whole line rest (sameStage ▸ taken),
        settle_continues whole part earlier continues]
      cases part.settle with
      | error reason => rfl
      | ok settled =>
        change ((settled.behind earlier).start line).read rest = _
        exact inductionHypothesis _ (settled.start line)
          (Or.inl (start_behind settled earlier line))

/-- Whether nothing follows, or a line that abandons whoever waits. -/
def atBoundary (lines : List Line) : Bool := lines.head?.all Line.abandons

/-- From a line on that abandons whoever waits, a transcript reads as if it began
    there. -/
theorem read_boundary (assembly : Assembly) (lines : List Line)
    (idle : assembly.stage = .between) (boundary : atBoundary lines = true) :
    assembly.read lines = (ofLines lines).map (assembly.flush.events ++ ·) := by
  have noFlush : ({} : Assembly).flush = {} := rfl
  cases lines with
  | nil =>
    rw [ofLines_eq_read, read_nil, read_nil, settle_idle assembly idle]
    simp [settle, noFlush, Except.map, pure, Except.pure]
  | cons line rest =>
    obtain ⟨heading, begins, abandons⟩ := line.heading?_of_abandons boundary
    rw [ofLines_eq_read, read_begin assembly line rest heading idle begins,
      read_begin {} line rest heading rfl begins]
    apply read_continues
    have thought : assembly.flush.thinking = [] := rfl
    cases heading with
    | call => cases abandons
    | run =>
      refine Or.inl ?_
      simp [begin, emit, behind, noFlush, thought, idle]
    | command | session =>
      refine Or.inr ⟨rfl, assembly.flush.pending, ?_⟩
      simp [begin, behind, noFlush, thought]

end

/-- Whether a block is open that would take a further line. -/
def inBlock (assembly : Assembly) : Bool :=
  assembly.stage.block?.any fun block => decide (0 < block.depth)

/-- A block that is not open consumes nothing, and neither does an item without a block. -/
theorem consumes_of_inBlock (assembly : Assembly) (line : Line)
    (closed : assembly.inBlock = false) : assembly.stage.consumes line = false := by
  unfold inBlock at closed
  unfold Stage.consumes
  cases isOpen : assembly.stage.block? with
  | none => rfl
  | some block =>
    have balanced : decide (0 < block.depth) = false := by simpa [isOpen] using closed
    simp [Block.takes, balanced]

variable [NestingLimits]

/-- What is open can be settled before a line that abandons whoever waits, and
    before nothing. -/
theorem read_settled_boundary (assembly : Assembly) (lines : List Line)
    (closed : assembly.inBlock = false) (boundary : atBoundary lines = true) :
    assembly.read lines = (do (← assembly.settle).read lines) := by
  apply read_settle
  intro line first
  have abandons : line.abandons = true := by simpa [atBoundary, first] using boundary
  obtain ⟨heading, begins, _⟩ := line.heading?_of_abandons abandons
  exact Stage.takes?_of_heading? _ line heading begins (assembly.consumes_of_inBlock line closed)

/-- Whether the lines of a transcript end inside a block: they can be read, and a
    block is open behind the last of them. -/
def breaksOff (lines : List Line) : Bool :=
  match lines.foldlM feed {} with
  | .ok state => state.inBlock
  | .error _ => false

/-- The assembly behind the lines, if they can be read. -/
def reached? (lines : List Line) : Option Assembly := (lines.foldlM feed {}).toOption

/-- An assembly is reached by the lines that are read into it. -/
theorem reached?_eq_some (lines : List Line) (state : Assembly) :
    reached? lines = some state ↔ lines.foldlM feed {} = .ok state := by
  unfold reached?
  cases lines.foldlM feed {} <;> simp [Except.toOption]

/-- Whether the item that is open behind the lines does not go on with what comes
    next. -/
def endsItem (lines : List Line) (next? : Option Line) : Bool :=
  (reached? lines).any fun state => next?.all fun line => (state.stage.takes? line).isNone

/-- Who waits once the lines are read and the open item is settled. -/
def waiting? (lines : List Line) : Option (List Nat) :=
  (reached? lines).bind fun state => state.settle.toOption.map (·.pending)

/-- Who waits is told by settling the assembly that is reached. -/
theorem waiting?_eq_some (lines : List Line) (pending : List Nat) :
    waiting? lines = some pending ↔ ∃ state settled, lines.foldlM feed {} = .ok state ∧
      state.settle = .ok settled ∧ settled.pending = pending := by
  have ended (state : Assembly) : state.settle.toOption.map (·.pending) = some pending ↔
      ∃ settled, state.settle = .ok settled ∧ settled.pending = pending := by
    cases state.settle <;> simp [Except.toOption]
  simp only [waiting?, Option.bind_eq_some_iff, reached?_eq_some, ended, exists_and_left]

end Assembly

/-- Transcripts one behind the other are told one behind the other. The second one
    begins with a line that is told as no call, and the first one does not break off
    inside a block. Both have all their events with their results, and if one of
    them cannot be assembled, the whole cannot. -/
theorem transcripts_concatenate [NestingLimits] (first second : List Line)
    (boundary : Assembly.atBoundary second = true) (whole : Assembly.breaksOff first = false) :
    Assembly.ofLines (first ++ second) = (do
      let events ← Assembly.ofLines first
      let further ← Assembly.ofLines second
      return events ++ further) := by
  have alone : Assembly.ofLines first = (do (← first.foldlM Assembly.feed {}).finish) := rfl
  rw [Assembly.ofLines_append, alone]
  cases fed : first.foldlM Assembly.feed {} with
  | error reason => rfl
  | ok state =>
    have closed : state.inBlock = false := by simpa [Assembly.breaksOff, fed] using whole
    change state.read second = (do
      let events ← state.finish
      let further ← Assembly.ofLines second
      return events ++ further)
    rw [state.read_settled_boundary second closed boundary, Assembly.finish]
    cases done : state.settle with
    | error reason => rfl
    | ok settled =>
      change settled.read second = _
      rw [settled.read_boundary second (Assembly.settle_stage state settled done) boundary]
      cases Assembly.ofLines second <;> rfl

namespace TranscriptsInARow

/-- A transcript that ends with a call that waits, below output. -/
def first : List Line :=
  ["App run 1", "I look.", "─── memory_search | memory ───", "query: users", "searching"]

/-- A transcript whose command has a block in its output, and whose call gets the
    result of a block. -/
def second : List Line :=
  ["$ git push", "Annotated \x7b", "    text: \"\x7b\\\"success\\\": false\x7d\",", "\x7d",
    "done", "─── memory_add | memory ───", "Annotated \x7b",
    "    text: \"\x7b\\\"success\\\": true\x7d\",", "\x7d"]

end TranscriptsInARow

open TranscriptsInARow in
/-- No block of the second transcript answers the call that waits in the first. The command at
    its start abandons the call. -/
theorem waiting_call_is_left_behind :
    (Assembly.ofLines (first ++ second)).toOption.map (List.map (·.result)) =
        some [none, none, none, none, some ("stored" : Text)] ∧
      Assembly.ofLines (first ++ second) = (do
        let events ← Assembly.ofLines first
        let further ← Assembly.ofLines second
        return events ++ further) :=
  ⟨by decide +kernel, transcripts_concatenate first second (by decide +kernel) (by decide +kernel)⟩

end AgentRuns
