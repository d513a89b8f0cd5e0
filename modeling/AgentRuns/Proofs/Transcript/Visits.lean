import AgentRuns.Proofs.Transcript.Cursor

/-!
# One visit to every line

Reading item by item comes to the same events as reading line by line. A loop reads into
an item that is open in between: from wherever the loop stands the rest of the lines comes
to the same events, with what the loop has gathered so far in the open item. Where the
loop ends the next line does not belong to the item, which can then be settled.

Each step takes the lines from the cursor up to where it leaves the cursor, at least one.
So steps come to an end, and their stretches lie side by side from the first line on.
-/

namespace AgentRuns

namespace Cursor

/-- Below its header a call takes a parameter or noise, or what it takes below its
    parameters. -/
theorem params_takes (call : Call) (line : Line) :
    (Stage.params call).takes? line =
      ((takeParam? line call).map Stage.params).or (Stage.callTakes? call line) := by
  cases noise : line.isNoise with
  | true => simp [takeParam?, Stage.takes?, noise]
  | false => cases found : line.parameter? <;> simp [takeParam?, Stage.takes?, noise, found]

/-- Below its parameters a call takes its block, or output and noise. -/
theorem body_takes (call : Call) (line : Line) :
    (Stage.body call).takes? line =
      if !line.isStructural && line.opensBlock then some (.answer call (Block.start line))
      else (takeOutput? line call).map Stage.body := by
  unfold takeOutput?
  simp only [Stage.takes?, Stage.callTakes?]
  split_ifs <;> simp_all

variable (lines : List Line)

/-- From a place with a line on the rest is that line and what is behind it. -/
theorem drop_here (place : Nat) (line : Line) (here : lines[place]? = some line) :
    lines.drop place = line :: lines.drop (place + 1) := by
  obtain ⟨inside, rfl⟩ := List.getElem?_eq_some_iff.mp here
  exact List.drop_eq_getElem_cons inside

/-- The line behind a block is not taken by it. It is the one at which its loop stopped. -/
theorem readBlock_refuses (place : Nat) (opening line : Line)
    (here : lines[(readBlock lines place opening).1]? = some line) :
    (readBlock lines place opening).2.takes line = false :=
  (takeInner?_eq_none line _).mp
    (gather_stops lines takeInner? (place + 1) (Block.start opening) line here)

variable [NestingLimits]

/-- A loop changes nothing of what the rest comes to if none of its rounds does. The induction
    is on the rounds. -/
theorem read_loop {σ : Type} (round : Round σ) (progresses : Progresses lines round)
    (place : Nat) (state : σ) (resume : σ → Assembly)
    (reads : ∀ place line state next, lines[place]? = some line →
      round place line state = some next →
        (resume state).read (lines.drop place) = (resume next.2).read (lines.drop next.1)) :
    (resume state).read (lines.drop place) =
      (resume (loop lines round progresses place state).2).read
        (lines.drop (loop lines round progresses place state).1) := by
  apply loop_keeps lines round progresses place state fun reached gathered =>
    (resume state).read (lines.drop place) = (resume gathered).read (lines.drop reached)
  · rfl
  · intro reached line gathered next here goes same
    exact same.trans (reads reached line gathered next here goes)

/-- Lines that are taken into the open item one by one are read into it. -/
theorem read_gather {σ : Type} (take? : Line → σ → Option σ) (place : Nat) (state : σ)
    (assembly : Assembly) (stage : σ → Stage)
    (taken : ∀ line state next, take? line state = some next →
      (stage state).takes? line = some (stage next)) :
    ({ assembly with stage := stage state } : Assembly).read (lines.drop place) =
      ({ assembly with stage := stage (gather lines take? place state).2 } : Assembly).read
        (lines.drop (gather lines take? place state).1) := by
  apply read_loop lines _ _ place state fun gathered => { assembly with stage := stage gathered }
  intro place line state next here goes
  obtain ⟨gathered, takes, rfl⟩ := Option.map_eq_some_iff.mp goes
  rw [drop_here lines place line here]
  exact Assembly.read_taken _ line _ _ (taken line state gathered takes)

/-- The lines of a block are read into it, whatever item it stands below. -/
theorem read_readBlock (assembly : Assembly) (stage : Stage) (place : Nat) (opening : Line)
    (opened : stage.block? = some (Block.start opening)) :
    ({ assembly with stage } : Assembly).read (lines.drop (place + 1)) =
      ({ assembly with stage := stage.withBlock (readBlock lines place opening).2 } :
        Assembly).read (lines.drop (readBlock lines place opening).1) := by
  have grown := read_gather lines takeInner? (place + 1) (Block.start opening) assembly
    stage.withBlock ?_
  · rwa [stage.withBlock_self _ opened] at grown
  · intro line block next takes
    obtain ⟨belongs, rfl⟩ := (takeInner?_eq_some line block next).mp takes
    rw [Stage.takes?_open _ block line (stage.block?_withBlock block _ opened) belongs,
      Stage.withBlock_withBlock]

/-- What a reading from a place has to do: what is behind it comes to the same events as
    all lines from the place on, and nothing is open behind it. -/
structure Reads (assembly : Assembly) (place : Nat)
    (reading : Except SummaryError (Nat × Assembly)) : Prop where
  same : assembly.read (lines.drop place) =
    (do
      let next ← reading
      next.2.read (lines.drop next.1))
  idle : ∀ next, reading = .ok next → next.2.stage = .between

/-- An item that has been read up to a place, and that the line there does not belong to,
    is settled there. -/
theorem reads_settled (assembly opened : Assembly) (place stop : Nat)
    (same : assembly.read (lines.drop place) = opened.read (lines.drop stop))
    (refused : ∀ line, lines[stop]? = some line → opened.stage.takes? line = none) :
    Reads lines assembly place (opened.settle.map (stop, ·)) := by
  constructor
  case same =>
    rw [same, opened.read_settle (lines.drop stop) (by rwa [List.head?_drop])]
    cases opened.settle <;> rfl
  case idle =>
    intro next finished
    obtain ⟨settled, done, ending⟩ := ok_of_map opened.settle _ _ finished
    cases ending
    exact opened.settle_stage settled done

/-- Noise behind a reading can be skipped. Between items it is passed over anyway. -/
theorem Reads.skip_noise (assembly : Assembly) (place stop : Nat)
    (reading : Except SummaryError Assembly)
    (reads : Reads lines assembly place (reading.map (stop, ·))) :
    Reads lines assembly place (reading.map (skip lines Line.isNoise stop, ·)) := by
  cases reading with
  | error reason => exact reads
  | ok next =>
    have idle := reads.idle _ rfl
    constructor
    · refine reads.same.trans ?_
      apply read_loop lines (byLine (takeKind? Line.isNoise)) _ stop () fun _ => next
      intro place line _ reached here goes
      obtain ⟨_, noise, rfl⟩ := Option.map_eq_some_iff.mp goes
      have isNoise : line.isNoise = true := by simpa [takeKind?] using noise
      rw [drop_here lines place line here]
      exact next.read_noise [line] _ idle (by simpa using isNoise)
    · intro other done
      cases done
      exact idle

variable (assembly : Assembly) (place : Nat)

/-- A line that is an item of its own, or none, leaves nothing open. -/
theorem reads_line (next : Assembly) (idle : next.stage = .between)
    (same : assembly.read (lines.drop place) = next.read (lines.drop (place + 1))) :
    Reads lines assembly place (.ok (place + 1, next)) := by
  constructor
  · exact same
  · intro other done
    cases done
    exact idle

/-- A block between items is read until it refuses a line. It answers whoever has waited
    longest. -/
theorem reads_detached (opening : Line) (idle : assembly.stage = .between)
    (same : assembly.read (lines.drop place) =
      ({ assembly with stage := .detached (Block.start opening) } : Assembly).read
        (lines.drop (place + 1))) :
    Reads lines assembly place (detached lines assembly place opening) := by
  have settled := reads_settled lines assembly _ place _
    (same.trans (read_readBlock lines assembly _ place opening rfl)) ?_
  · simp only [Assembly.settle, Stage.withBlock, assembly.closed_eq idle] at settled
    exact settled
  · intro line here
    simp [Stage.withBlock, Stage.takes?, readBlock_refuses lines place opening line here]

/-- A session is read until a line is no detail. -/
theorem reads_session (provider model : Text) (idle : assembly.stage = .between)
    (same : assembly.read (lines.drop place) =
      ({ assembly.flush with stage := .session provider model } : Assembly).read
        (lines.drop (place + 1))) :
    Reads lines assembly place (session lines assembly place provider model) := by
  have details := read_gather lines (takeKind? fun line => line.sessionDetail?.isSome)
    (place + 1) () assembly.flush (fun _ => .session provider model) ?_
  · have settled := reads_settled lines assembly _ place _ (same.trans details) ?_
    · simp only [Assembly.settle, assembly.flush.closed_eq (by simpa using idle)] at settled
      exact settled
    · intro line here
      have stops := gather_stops lines _ (place + 1) () line here
      simpa [takeKind?, Stage.takes?] using stops
  · intro line _ next takes
    simpa [takeKind?, Stage.takes?] using takes

/-- The lines below a command are read into it, with every block among them. A block is jumped
    over by one round. -/
theorem read_readCommand (text : Text) :
    ({ assembly with stage := .command text [] } : Assembly).read (lines.drop place) =
      ({ assembly with stage := .command text (readCommand lines place).2 } : Assembly).read
        (lines.drop (readCommand lines place).1) := by
  apply read_loop lines (commandRound lines) (commandRound_progresses lines) place [] fun output =>
    { assembly with stage := .command text output }
  intro place line output next here goes
  rw [drop_here lines place line here]
  obtain ⟨inner, ⟨opens, rfl⟩ | ⟨unopened, rfl⟩⟩ :=
    commandRound_cases lines place line output next goes
  · have opened : (Stage.command text output).takes? line =
        some (.commandBlock text output (Block.start line)) := by
      simp [Stage.takes?, Stage.commandTakes?, inner, opens]
    rw [Assembly.read_taken _ line _ _ opened]
    refine (read_readBlock lines assembly _ place line rfl).trans ?_
    -- Behind the block the command goes on as it does without one.
    apply Assembly.read_alike
    · rfl
    · intro other behind
      rw [List.head?_drop] at behind
      simp [Stage.withBlock, Stage.takes?, readBlock_refuses lines place line other behind]
  · apply Assembly.read_taken
    simp only [Stage.takes?, Stage.commandTakes?, inner, unopened, Bool.false_eq_true, if_false]
    split <;> rfl

/-- A command is read until a line begins an item. -/
theorem reads_command (text : Text) (idle : assembly.stage = .between)
    (same : assembly.read (lines.drop place) =
      ({ assembly.flush with stage := .command text [] } : Assembly).read
        (lines.drop (place + 1))) :
    Reads lines assembly place (command lines assembly place text) := by
  have settled := reads_settled lines assembly _ place _
    (same.trans (read_readCommand lines assembly.flush (place + 1) text)) ?_
  · simp only [Assembly.settle, assembly.flush.closed_eq (by simpa using idle)] at settled
    exact settled
  · intro line here
    have stops := loop_stops lines _ (commandRound_progresses lines) (place + 1) [] line here
    have structural := (commandRound_eq_none lines _ line _).mp stops
    simp [Stage.takes?, Stage.commandTakes?, structural]

/-- Parameters are read into a call, and then its output begins. Noise among them is passed
    over. -/
theorem read_params (call : Call) :
    ({ assembly with stage := .params call } : Assembly).read (lines.drop place) =
      ({ assembly with stage := .body (gather lines takeParam? place call).2 } : Assembly).read
        (lines.drop (gather lines takeParam? place call).1) := by
  refine (read_gather lines takeParam? place call assembly Stage.params ?_).trans ?_
  · intro line call next takes
    rw [params_takes, takes]
    rfl
  · apply Assembly.read_alike
    · rfl
    · intro line behind
      rw [List.head?_drop] at behind
      rw [params_takes, gather_stops lines takeParam? place call line behind]
      rfl

/-- The output of a call is read into it. Noise in it is passed over. -/
theorem read_output (call : Call) :
    ({ assembly with stage := .body call } : Assembly).read (lines.drop place) =
      ({ assembly with stage := .body (gather lines takeOutput? place call).2 } : Assembly).read
        (lines.drop (gather lines takeOutput? place call).1) := by
  apply read_gather lines takeOutput? place call assembly Stage.body
  intro line call next takes
  have unopened : (!line.isStructural && line.opensBlock) = false := by
    unfold takeOutput? at takes
    split_ifs at takes <;> simp_all
  rw [body_takes, takes, unopened]
  rfl

/-- A block below a call is read until it refuses a line, and ends the call. -/
theorem reads_answer (begun : Assembly) (ended : Nat) (call : Call) (opening : Line)
    (idle : begun.stage = .between) (here : lines[ended]? = some opening)
    (opens : (!opening.isStructural && opening.opensBlock) = true)
    (same : assembly.read (lines.drop place) =
      ({ begun with stage := .body call } : Assembly).read (lines.drop ended)) :
    Reads lines assembly place
      ((announceWith begun call (readBlock lines ended opening).2).map
        ((readBlock lines ended opening).1, ·)) := by
  have opened : (Stage.body call).takes? opening = some (.answer call (Block.start opening)) := by
    rw [body_takes, if_pos opens]
  rw [drop_here lines ended opening here, Assembly.read_taken _ opening _ _ opened] at same
  have settled := reads_settled lines assembly _ place _
    (same.trans (read_readBlock lines begun _ ended opening rfl)) ?_
  · simp only [Assembly.settle, Stage.withBlock, begun.closed_eq idle] at settled
    exact settled
  · intro line behind
    simp [Stage.withBlock, Stage.takes?, readBlock_refuses lines ended opening line behind]

/-- A call is read until a line begins an item, or a block ends it. These are the two cases. -/
theorem reads_call (tool extension : Text) (idle : assembly.stage = .between)
    (same : assembly.read (lines.drop place) =
      ({ assembly.flush with stage := .params { tool, extension } } : Assembly).read
        (lines.drop (place + 1))) :
    Reads lines assembly place (call lines assembly place tool extension) := by
  have flushIdle : assembly.flush.stage = .between := by simpa using idle
  have told := (same.trans (read_params lines assembly.flush (place + 1) _)).trans
    (read_output lines assembly.flush _ _)
  unfold call
  dsimp only
  split
  · rename_i unended
    have settled := reads_settled lines assembly _ place _ told ?_
    · rw [assembly.flush.settle_call _ _ flushIdle (Or.inr rfl)] at settled
      exact settled
    · intro line here
      rw [here] at unended
      have unopened : (!line.isStructural && line.opensBlock) = false := by
        simpa using unended
      rw [body_takes, unopened, gather_stops lines takeOutput? _ _ line here]
      rfl
  · rename_i opening found
    obtain ⟨here, opens⟩ := Option.filter_eq_some_iff.mp found
    exact (reads_answer lines assembly place assembly.flush _ _ opening flushIdle here opens
      told).skip_noise

/-- Reading the item at a place whole comes to what reading its lines comes to. There is one
    case for each test of the line. -/
theorem reads_step (line : Line) (idle : assembly.stage = .between)
    (here : lines[place]? = some line) :
    Reads lines assembly place (step lines assembly place line) := by
  have first : assembly.read (lines.drop place) =
      (assembly.start line).read (lines.drop (place + 1)) := by
    rw [drop_here lines place line here, assembly.read_idle line _ idle]
  revert first
  unfold Assembly.start step
  split
  · intro first
    exact reads_line lines assembly place assembly idle first
  · split
    · exact reads_detached lines assembly place line idle
    -- Both sides test for the beginnings of items in the same order.
    · cases line.toolHeader? with
      | some header => exact reads_call lines assembly place header.1 header.2 idle
      | none =>
        cases line.command? with
        | some text => exact reads_command lines assembly place text idle
        | none =>
          cases line.session? with
          | some fields => exact reads_session lines assembly place fields.1 fields.2 idle
          | none =>
            cases line.runHeader? with
            | some id => exact reads_line lines assembly place _ (by simpa using idle)
            | none => exact reads_line lines assembly place _ idle

/-- Steps from a place on, with the stretches of lines that they take: up to the end of
    the lines, or to a step that fails. -/
inductive Assembles :
    Assembly → Nat → List (Nat × Nat) → Except SummaryError (List Event) → Prop
  | ended (assembly : Assembly) (place : Nat) (past : lines[place]? = none) :
    Assembles assembly place [] (.ok assembly.flush.events)
  | failed (assembly : Assembly) (place : Nat) (line : Line) (reason : SummaryError)
    (here : lines[place]? = some line) (fails : step lines assembly place line = .error reason) :
    Assembles assembly place [] (.error reason)
  | stepped (assembly next : Assembly) (place stop : Nat) (line : Line)
    (stretches : List (Nat × Nat)) (outcome : Except SummaryError (List Event))
    (here : lines[place]? = some line) (goes : step lines assembly place line = .ok (stop, next))
    (others : Assembles next stop stretches outcome) :
    Assembles assembly place ((place, stop) :: stretches) outcome

/-- The places of the lines in a stretch. -/
def places (stretch : Nat × Nat) : List Nat := List.range' stretch.1 (stretch.2 - stretch.1)

variable {lines assembly place}

/-- There is one way to go on at every place. The induction is on the steps. -/
theorem Assembles.unique {stretches others : List (Nat × Nat)}
    {outcome other : Except SummaryError (List Event)}
    (assembles : Assembles lines assembly place stretches outcome)
    (too : Assembles lines assembly place others other) :
    others = stretches ∧ other = outcome := by
  induction assembles generalizing others with
  | ended assembly place past => cases too <;> simp_all
  | failed assembly place line reason here fails => cases too <;> simp_all
  | stepped assembly next place stop line stretches outcome here goes later inductionHypothesis =>
    cases too with
    | ended _ _ past => simp_all
    | failed _ _ line reason here fails => simp_all
    | stepped _ next' _ stop' line' stretches' _ here' goes' later' =>
      obtain rfl : line' = line := Option.some.inj (here'.symm.trans here)
      obtain ⟨rfl, rfl⟩ := Prod.mk.inj (Except.ok.inj (goes'.symm.trans goes))
      obtain ⟨rfl, rfl⟩ := inductionHypothesis later'
      exact ⟨rfl, rfl⟩

/-- From a place where nothing is open steps come to an end, and to what the lines from
    there come to. The recursion is on the lines that are left: a step leaves fewer. -/
theorem exists_assembles (assembly : Assembly) (place : Nat)
    (idle : assembly.stage = .between) :
    ∃ stretches, Assembles lines assembly place stretches (assembly.read (lines.drop place)) := by
  cases here : lines[place]? with
  | none =>
    have past : lines.drop place = [] := List.drop_eq_nil_of_le (List.getElem?_eq_none_iff.mp here)
    rw [past, Assembly.read_nil, assembly.settle_idle idle]
    exact ⟨[], .ended assembly place here⟩
  | some line =>
    have reads := reads_step lines assembly place line idle here
    rw [reads.same]
    cases goes : step lines assembly place line with
    | error reason => exact ⟨[], .failed assembly place line reason here goes⟩
    | ok next =>
      have inside : place < lines.length := (List.getElem?_eq_some_iff.mp here).1
      have moved := step_moves lines assembly place inside line next.1 next.2 goes
      obtain ⟨stretches, others⟩ := exists_assembles next.2 next.1 (reads.idle next goes)
      exact ⟨_, .stepped assembly next.2 place next.1 line stretches _ here goes others⟩
termination_by lines.length - place

/-- The stretches of steps lie side by side, up to the end of the lines exactly if no step
    fails. -/
theorem Assembles.side_by_side {stretches : List (Nat × Nat)}
    {outcome : Except SummaryError (List Event)}
    (assembles : Assembles lines assembly place stretches outcome)
    (inside : place ≤ lines.length) :
    (∀ stretch ∈ stretches, stretch.1 < stretch.2) ∧
      ∃ reached, place ≤ reached ∧ reached ≤ lines.length ∧
        stretches.flatMap places = List.range' place (reached - place) ∧
        (reached = lines.length ↔ ∃ events, outcome = .ok events) := by
  induction assembles with
  | ended assembly place past =>
    have behind : place = lines.length :=
      Nat.le_antisymm inside (List.getElem?_eq_none_iff.mp past)
    exact ⟨by simp, place, Nat.le_refl place, inside, by simp, by simp [behind]⟩
  | failed assembly place line reason here fails =>
    have before : place < lines.length := (List.getElem?_eq_some_iff.mp here).1
    exact ⟨by simp, place, Nat.le_refl place, inside, by simp, by simp [Nat.ne_of_lt before]⟩
  | stepped assembly next place stop line stretches outcome here goes others inductionHypothesis =>
    have before : place < lines.length := (List.getElem?_eq_some_iff.mp here).1
    have moved := step_moves lines assembly place before line stop next goes
    obtain ⟨filled, reached, further, bound, later, ends⟩ := inductionHypothesis moved.2
    refine ⟨?_, reached, by omega, bound, ?_, ends⟩
    · intro stretch member
      rcases List.mem_cons.mp member with rfl | member
      · exact moved.1
      · exact filled stretch member
    · have first : stop = place + (stop - place) := by omega
      have both : reached - place = (stop - place) + (reached - stop) := by omega
      rw [List.flatMap_cons, later, both, ← List.range'_append_1, ← first]
      rfl

variable (lines) in
/-- Every scan inside an item moves the cursor forwards, and so does every reading of an
    item that does not fail, wherever it is entered and whatever was read before. -/
structure MovesOn : Prop where
  /-- A round that takes lines one by one, whatever it takes and gathers. -/
  taking : ∀ (σ : Type) (take? : Line → σ → Option σ), Progresses lines (byLine take?)
  /-- A round below a command, also where it jumps over a block. -/
  jumping : Progresses lines (commandRound lines)
  /-- A block, also one that is closed or stopped at once. -/
  block : ∀ place, place < lines.length → ∀ opening,
    place < (readBlock lines place opening).1 ∧ (readBlock lines place opening).1 ≤ lines.length
  step : ∀ assembly place, place < lines.length →
    ∀ line, Moves lines place (step lines assembly place line)
  detached : ∀ assembly place, place < lines.length →
    ∀ opening, Moves lines place (detached lines assembly place opening)
  session : ∀ assembly place, place < lines.length →
    ∀ provider model, Moves lines place (session lines assembly place provider model)
  command : ∀ assembly place, place < lines.length →
    ∀ text, Moves lines place (command lines assembly place text)
  call : ∀ assembly place, place < lines.length →
    ∀ tool extension, Moves lines place (call lines assembly place tool extension)

end Cursor

open Cursor in
/-- Every scan and every reading of an item moves on. So the steps from the first line on
    come to an end whatever the lines are, in one way, and to the events that reading line
    by line comes to. Their stretches lie side by side, none is empty, and together they
    are all lines in order, or all lines before a step that fails. -/
theorem every_line_is_visited_once [NestingLimits] (lines : List Line) :
    MovesOn lines ∧
      ∃ stretches,
        (∀ others outcome, Assembles lines {} 0 others outcome ↔
          others = stretches ∧ outcome = Assembly.ofLines lines) ∧
        (∀ stretch ∈ stretches, stretch.1 < stretch.2) ∧
        ∃ reached ≤ lines.length, stretches.flatMap places = List.range reached ∧
          (reached = lines.length ↔ ∃ events, Assembly.ofLines lines = .ok events) := by
  constructor
  · constructor
    · intro σ take?
      exact byLine_progresses lines take?
    · exact commandRound_progresses lines
    · intro place inside opening
      exact readBlock_bounds lines place opening inside
    · intro assembly place inside
      exact step_moves lines assembly place inside
    · intro assembly place inside
      exact detached_moves lines assembly place inside
    · exact session_moves lines
    · exact command_moves lines
    · intro assembly place inside
      exact call_moves lines assembly place inside
  · obtain ⟨stretches, assembles⟩ : ∃ stretches,
        Assembles lines {} 0 stretches (Assembly.ofLines lines) := exists_assembles {} 0 rfl
    obtain ⟨filled, reached, _, bound, sideBySide, ends⟩ :=
      assembles.side_by_side (Nat.zero_le lines.length)
    refine ⟨stretches, ?_, filled, reached, bound, ?_, ends⟩
    · intro others outcome
      constructor
      · exact assembles.unique
      · rintro ⟨rfl, rfl⟩
        exact assembles
    · rw [sideBySide, List.range_eq_range', Nat.sub_zero]

end AgentRuns
