import AgentRuns.Proofs.Transcript.Answering

/-!
# Reading with a cursor

A transcript can be read item by item. A cursor stands on a line, the item that begins
there is read whole, and the cursor is moved behind it. Inside an item the cursor is moved
by loops: over the details of a session, the output of a command, the parameters and the
output of a call, the lines of a block, and the noise behind the block of a call. A round
of a loop looks at one line and stops the loop or moves the cursor. A block below a
command is jumped over in one round.

That loops end is no matter of course, a round that left the cursor where it is would go
on for ever. So a loop can be run only over rounds that progress: they move the cursor
forwards, and never beyond the end of the lines. Every step from item to item progresses
likewise, wherever the cursor stands and whatever was read before.
-/

namespace AgentRuns.Cursor

/-- What a round of a loop does at a line: it stops the loop, or it moves the cursor and
    goes on with what was gathered so far. -/
abbrev Round (σ : Type) := Nat → Line → σ → Option (Nat × σ)

section Loops

variable {σ : Type} (lines : List Line)

/-- Whether every round that does not stop its loop moves the cursor forwards, and not
    beyond the end of the lines. -/
def Progresses (round : Round σ) : Prop :=
  ∀ place line state next, lines[place]? = some line → round place line state = some next →
    place < next.1 ∧ next.1 ≤ lines.length

/-- Rounds from a place on, up to where a round stops the loop or no line is left: the
    place of the cursor then, and what was gathered. -/
def loop (round : Round σ) (progresses : Progresses lines round) (place : Nat) (state : σ) :
    Nat × σ :=
  match _here : lines[place]? with
  | none => (place, state)
  | some line =>
    match _goes : round place line state with
    | none => (place, state)
    | some next => loop round progresses next.1 next.2
termination_by lines.length - place
decreasing_by
  have moved := progresses place line state next _here _goes
  omega

variable (round : Round σ) (progresses : Progresses lines round) (place : Nat) (state : σ)

/-- What holds where a loop begins, and behind every round if it held before, holds where
    the loop ends. -/
theorem loop_keeps (holds : Nat → σ → Prop) (first : holds place state)
    (keeps : ∀ place line state next, lines[place]? = some line →
      round place line state = some next → holds place state → holds next.1 next.2) :
    holds (loop lines round progresses place state).1
      (loop lines round progresses place state).2 := by
  fun_induction loop lines round progresses place state with
  | case1 | case2 => exact first
  | case3 place state line here next goes inductionHypothesis =>
    exact inductionHypothesis (keeps place line state next here goes first)

/-- Where a loop ends a round stops it, or no line is left. The cases are the ways out of a
    round. -/
theorem loop_stops (line : Line)
    (here : lines[(loop lines round progresses place state).1]? = some line) :
    round (loop lines round progresses place state).1 line
      (loop lines round progresses place state).2 = none := by
  fun_induction loop lines round progresses place state with
  | case1 place state past =>
    rw [past] at here
    cases here
  | case2 place state other there stops =>
    obtain rfl : other = line := Option.some.inj (there.symm.trans here)
    exact stops
  | case3 place state other there next goes inductionHypothesis => exact inductionHypothesis here

/-- A loop leaves the cursor between its start and the end of the lines. Its rounds move it
    forwards and never beyond the end. -/
theorem loop_bounds (inside : place ≤ lines.length) :
    place ≤ (loop lines round progresses place state).1 ∧
      (loop lines round progresses place state).1 ≤ lines.length := by
  apply loop_keeps lines round progresses place state
    (fun reached _ => place ≤ reached ∧ reached ≤ lines.length)
  · exact ⟨Nat.le_refl place, inside⟩
  · intro reached line gathered next here goes between
    have moved := progresses reached line gathered next here goes
    exact ⟨by omega, moved.2⟩

end Loops

/-- The round that takes one line, if it takes it. -/
def byLine {σ : Type} (take? : Line → σ → Option σ) : Round σ := fun place line state =>
  (take? line state).map (place + 1, ·)

/-- A line of a kind, of which nothing is gathered. -/
def takeKind? (kind : Line → Bool) (line : Line) (_ : Unit) : Option Unit :=
  if kind line then some () else none

/-- A line that the open block takes. -/
def takeInner? (line : Line) (block : Block) : Option Block :=
  if block.takes line then some (block.add line) else none

/-- A line is taken into a block if its braces are open before the line and the line is no
    header. -/
theorem takeInner?_eq_some (line : Line) (block next : Block) :
    takeInner? line block = some next ↔ block.takes line = true ∧ block.add line = next := by
  simp [takeInner?]

/-- A line is not taken if the braces of the block balance before it or the line is a header. -/
theorem takeInner?_eq_none (line : Line) (block : Block) :
    takeInner? line block = none ↔ block.takes line = false := by
  simp [takeInner?]

/-- A parameter below the header of a call, or noise among the parameters. -/
def takeParam? (line : Line) (call : Call) : Option Call :=
  if line.isNoise then some call
  else match line.parameter? with
    | some (key, value) => some { call with params := call.params.put key value }
    | none => none

/-- A line of the output of a call, or noise in the output. -/
def takeOutput? (line : Line) (call : Call) : Option Call :=
  if line.isStructural then none
  else if line.opensBlock then none
  else if line.isNoise then some call
  else some { call with output := call.output ++ [line] }

variable (lines : List Line)

/-- A round that takes a line moves the cursor by one. So taking line by line comes to an end. -/
theorem byLine_progresses {σ : Type} (take? : Line → σ → Option σ) :
    Progresses lines (byLine take?) := by
  intro place line state next here goes
  obtain ⟨gathered, _, rfl⟩ := Option.map_eq_some_iff.mp goes
  have inside : place < lines.length := (List.getElem?_eq_some_iff.mp here).1
  exact ⟨Nat.lt_succ_self place, inside⟩

/-- The lines from a place on that are taken one by one: the place behind them, and what
    was gathered. -/
def gather {σ : Type} (take? : Line → σ → Option σ) (place : Nat) (state : σ) : Nat × σ :=
  loop lines (byLine take?) (byLine_progresses lines take?) place state

/-- The line behind those that are taken is not taken. It is the one at which the loop
    stopped. -/
theorem gather_stops {σ : Type} (take? : Line → σ → Option σ) (place : Nat) (state : σ)
    (line : Line) (here : lines[(gather lines take? place state).1]? = some line) :
    take? line (gather lines take? place state).2 = none :=
  Option.map_eq_none_iff.mp
    (loop_stops lines _ (byLine_progresses lines take?) place state line here)

/-- Taking line by line leaves the cursor between its start and the end of the lines. -/
theorem gather_bounds {σ : Type} (take? : Line → σ → Option σ) (place : Nat) (state : σ)
    (inside : place ≤ lines.length) :
    place ≤ (gather lines take? place state).1 ∧
      (gather lines take? place state).1 ≤ lines.length :=
  loop_bounds lines _ (byLine_progresses lines take?) place state inside

/-- The place behind the lines of a kind. -/
def skip (kind : Line → Bool) (place : Nat) : Nat := (gather lines (takeKind? kind) place ()).1

/-- The place behind a block, and the block. -/
def readBlock (place : Nat) (opening : Line) : Nat × Block :=
  gather lines takeInner? (place + 1) (Block.start opening)

/-- A round over the output of a command. It jumps over a block. -/
def commandRound : Round (List Line) := fun place line output =>
  if line.isStructural then none
  else if line.opensBlock then some ((readBlock lines place line).1, output)
  else if line.isNoise then some (place + 1, output)
  else some (place + 1, output ++ [line])

/-- A block ends behind its opening, and at the end of the lines at the latest. It may take no
    line besides the opening. -/
theorem readBlock_bounds (place : Nat) (opening : Line) (inside : place < lines.length) :
    place < (readBlock lines place opening).1 ∧
      (readBlock lines place opening).1 ≤ lines.length :=
  gather_bounds lines takeInner? (place + 1) (Block.start opening) inside

/-- A round below a command goes on only at a line that begins no item. It jumps over a
    block, and takes any other line. -/
theorem commandRound_cases (place : Nat) (line : Line) (output : List Line)
    (next : Nat × List Line) (goes : commandRound lines place line output = some next) :
    line.isStructural = false ∧
      (line.opensBlock = true ∧ next = ((readBlock lines place line).1, output) ∨
        line.opensBlock = false ∧
          next = (place + 1, if line.isNoise then output else output ++ [line])) := by
  unfold commandRound at goes
  split_ifs at goes <;> simp_all

/-- Also where a block is jumped over the cursor is moved forwards. It is moved behind the
    block by one round. -/
theorem commandRound_progresses : Progresses lines (commandRound lines) := by
  intro place line output next here goes
  have inside : place < lines.length := (List.getElem?_eq_some_iff.mp here).1
  obtain ⟨_, ⟨_, rfl⟩ | ⟨_, rfl⟩⟩ := commandRound_cases lines place line output next goes
  · exact readBlock_bounds lines place line inside
  · exact ⟨Nat.lt_succ_self place, inside⟩

/-- Only a line that begins an item ends the output of a command. Blocks and noise are passed
    over. -/
theorem commandRound_eq_none (place : Nat) (line : Line) (output : List Line) :
    commandRound lines place line output = none ↔ line.isStructural = true := by
  unfold commandRound
  split_ifs <;> simp_all

/-- The place behind the output of a command, and the output. -/
def readCommand (place : Nat) : Nat × List Line :=
  loop lines (commandRound lines) (commandRound_progresses lines) place []

section

variable [NestingLimits]

/-- The block at a place between items, read whole. It answers whoever has waited
    longest. -/
def detached (assembly : Assembly) (place : Nat) (opening : Line) :
    Except SummaryError (Nat × Assembly) :=
  let block := readBlock lines place opening
  (assembly.answerBy block.2).map (block.1, ·)

/-- The session that begins at a place, read whole. -/
def session (assembly : Assembly) (place : Nat) (provider model : Text) :
    Except SummaryError (Nat × Assembly) :=
  let stop := skip lines (fun line => line.sessionDetail?.isSome) (place + 1)
  return (stop, assembly.flush.emit (.ofSession provider model))

/-- The command that begins at a place, read whole. -/
def command (assembly : Assembly) (place : Nat) (text : Text) :
    Except SummaryError (Nat × Assembly) :=
  let output := readCommand lines (place + 1)
  return (output.1, assembly.flush.emit (.ofCommand text output.2))

/-- A call that ends with a block is told. If its results are captured, the block answers
    whoever has waited longest by then. -/
def announceWith (assembly : Assembly) (call : Call) (block : Block) :
    Except SummaryError Assembly := do
  let announced := assembly.announce call
  if capturesResult call.tool then return announced.resolve (← Summary.ofBlock block)
  else return announced

/-- The call that begins at a place, read whole: its parameters, its output, and the
    block that ends it with the noise behind, if there is such a block. -/
def call (assembly : Assembly) (place : Nat) (tool extension : Text) :
    Except SummaryError (Nat × Assembly) :=
  let params := gather lines takeParam? (place + 1) { tool, extension }
  let output := gather lines takeOutput? params.1 params.2
  match lines[output.1]?.filter fun line => !line.isStructural && line.opensBlock with
  | none => return (output.1, assembly.flush.announce output.2)
  | some opening =>
    let block := readBlock lines output.1 opening
    let stop := skip lines Line.isNoise block.1
    (announceWith assembly.flush output.2 block.2).map (stop, ·)

/-- The item at a place, read whole: the place behind it, and the assembly there. -/
def step (assembly : Assembly) (place : Nat) (line : Line) :
    Except SummaryError (Nat × Assembly) :=
  if line.isNoise then return (place + 1, assembly)
  else if line.opensBlock then detached lines assembly place line
  else match line.toolHeader?, line.command?, line.session?, line.runHeader? with
    | some (tool, extension), _, _, _ => call lines assembly place tool extension
    | _, some text, _, _ => command lines assembly place text
    | _, _, some (provider, model), _ => session lines assembly place provider model
    | _, _, _, some _ =>
      return (place + 1, assembly.flush.emit { kind := .info, content := line })
    | none, none, none, none =>
      return (place + 1, { assembly with thinking := assembly.thinking ++ [line] })

end

/-- Whether a reading from a place, if it does not fail, moves the cursor forwards, and
    not beyond the end of the lines. -/
def Moves (place : Nat) (reading : Except SummaryError (Nat × Assembly)) : Prop :=
  ∀ stop next, reading = .ok (stop, next) → place < stop ∧ stop ≤ lines.length

section Moves

variable (assembly : Assembly) (place : Nat)

/-- What ends at one place, if it does not fail, moves the cursor there. A failure leaves the
    cursor nowhere. -/
theorem moves_map (reading : Except SummaryError Assembly) (stop : Nat)
    (bounds : place < stop ∧ stop ≤ lines.length) :
    Moves lines place (reading.map (stop, ·)) := by
  intro other next done
  obtain ⟨read, _, ending⟩ := ok_of_map reading _ _ done
  cases ending
  exact bounds

/-- What does not fail moves the cursor to where it ends. -/
theorem moves_ok (stop : Nat) (bounds : place < stop ∧ stop ≤ lines.length) :
    Moves lines place (.ok (stop, assembly)) :=
  moves_map lines place (.ok assembly) stop bounds

variable (inside : place < lines.length)

include inside

/-- A block between items moves the cursor behind it. -/
theorem detached_moves [NestingLimits] (opening : Line) :
    Moves lines place (detached lines assembly place opening) :=
  moves_map lines place _ _ (readBlock_bounds lines place opening inside)

/-- A session moves the cursor behind its details, and behind its line in any case. -/
theorem session_moves (provider model : Text) :
    Moves lines place (session lines assembly place provider model) :=
  moves_ok lines _ place _ (gather_bounds lines _ (place + 1) () inside)

/-- A command moves the cursor behind its output, and behind its line in any case. -/
theorem command_moves (text : Text) : Moves lines place (command lines assembly place text) :=
  moves_ok lines _ place _ (loop_bounds lines _ _ (place + 1) [] inside)

/-- Behind its header a call goes through its parameters, its output, its block and the
    noise behind the block, and none of them moves the cursor back. -/
theorem call_moves [NestingLimits] (tool extension : Text) :
    Moves lines place (call lines assembly place tool extension) := by
  have params := gather_bounds lines takeParam? (place + 1) { tool, extension } inside
  have output := gather_bounds lines takeOutput? _
    (gather lines takeParam? (place + 1) { tool, extension }).2 params.2
  unfold call
  dsimp only
  split
  · exact moves_ok lines _ place _ ⟨Nat.lt_of_lt_of_le params.1 output.1, output.2⟩
  · rename_i opening found
    obtain ⟨here, _⟩ := Option.filter_eq_some_iff.mp found
    have block := readBlock_bounds lines _ opening (List.getElem?_eq_some_iff.mp here).1
    have noise := gather_bounds lines (takeKind? Line.isNoise) _ () block.2
    have closed := Nat.lt_trans (Nat.lt_of_lt_of_le params.1 output.1) block.1
    exact moves_map lines place _ _ ⟨Nat.lt_of_lt_of_le closed noise.1, noise.2⟩

/-- From every line the cursor is moved forwards, whatever the line begins. There is one case
    for each test of a line. -/
theorem step_moves [NestingLimits] (line : Line) : Moves lines place
    (step lines assembly place line) := by
  have one : place < place + 1 ∧ place + 1 ≤ lines.length := ⟨Nat.lt_succ_self place, inside⟩
  unfold step
  split
  · exact moves_ok lines _ place _ one
  · split
    · exact detached_moves lines assembly place inside line
    · split
      · exact call_moves lines assembly place inside _ _
      · exact command_moves lines assembly place inside _
      · exact session_moves lines assembly place inside _ _
      · exact moves_ok lines _ place _ one
      · exact moves_ok lines _ place _ one

end Moves

end AgentRuns.Cursor
