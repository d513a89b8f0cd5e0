import AgentRuns.Proofs.Transcript.OpenBlocks

/-!
# Reading on from an assembly

From any assembly the rest of a transcript can be read to its events. What the
rest yields is told by its first line: a line that belongs to the open item is
passed on to the item, any other line finds the item settled. An item that the
rest does not go on with can therefore be settled before the rest is read.

Reading in this form is equational. A stretch of lines whose effect is known, a
closed block, a stretch of noise or of parameters, is taken off the front of the
rest, and what is left over is read from the assembly behind it.
-/

namespace AgentRuns

namespace Assembly

section

variable [NestingLimits]

/-- The events of everything that was read and of the lines that follow. -/
def read (assembly : Assembly) (lines : List Line) : Except SummaryError (List Event) := do
  (← lines.foldlM feed assembly).finish

/-- Lines are assembled by reading them from the beginning. Nothing has been read there. -/
theorem ofLines_eq_read (lines : List Line) : ofLines lines = read {} lines := rfl

/-- Lines can be read up to some place, and the rest from there. A failure before the place is
    a failure of the whole. -/
theorem ofLines_append (lines rest : List Line) :
    ofLines (lines ++ rest) = (do (← lines.foldlM feed {}).read rest) := by
  rw [ofLines_eq_read, read, List.foldlM_append]
  cases lines.foldlM feed {} <;> rfl

/-- Where nothing follows, the open item is settled and the prose is told. -/
theorem read_nil (assembly : Assembly) :
    assembly.read [] = assembly.settle.map (·.flush.events) := by
  change assembly.finish = _
  unfold finish
  cases assembly.settle <;> rfl

/-- The first line is fed, and the others are read behind it. -/
theorem read_cons (assembly : Assembly) (line : Line) (rest : List Line) :
    assembly.read (line :: rest) = (do (← assembly.feed line).read rest) := by
  unfold read
  rw [List.foldlM_cons]
  cases assembly.feed line <;> rfl

/-- A line that belongs to the open item is passed on to it. Nothing is settled for it. -/
theorem read_taken (assembly : Assembly) (line : Line) (rest : List Line) (stage : Stage)
    (taken : assembly.stage.takes? line = some stage) :
    assembly.read (line :: rest) = ({ assembly with stage } : Assembly).read rest := by
  rw [read_cons, feed_taken assembly line stage taken]
  rfl

/-- Lines that belong to the open item, one after the other, are passed on to it. The
    induction is on the lines. -/
theorem foldlM_through (assembly : Assembly) (lines : List Line) (stage : Stage)
    (taken : lines.foldlM Stage.takes? assembly.stage = some stage) :
    lines.foldlM feed assembly = .ok { assembly with stage } := by
  induction lines generalizing assembly with
  | nil =>
    cases taken
    rfl
  | cons line lines inductionHypothesis =>
    rw [List.foldlM_cons] at taken
    obtain ⟨next, first, others⟩ := Option.bind_eq_some_iff.mp taken
    rw [List.foldlM_cons, feed_taken assembly line next first]
    exact inductionHypothesis { assembly with stage := next } others

/-- The rest is read behind them. -/
theorem read_through (assembly : Assembly) (lines rest : List Line) (stage : Stage)
    (taken : lines.foldlM Stage.takes? assembly.stage = some stage) :
    assembly.read (lines ++ rest) = ({ assembly with stage } : Assembly).read rest := by
  rw [read, List.foldlM_append, assembly.foldlM_through lines stage taken]
  rfl

/-- The lines that an open block goes on through are read into it. The item stays the one that
    it was. -/
theorem read_open (assembly : Assembly) (block : Block) (more rest : List Line)
    (opened : assembly.stage.block? = some block) (goesOn : block.GoesOn more) :
    assembly.read (more ++ rest) =
      ({ assembly with stage := assembly.stage.withBlock (block.append more) } :
        Assembly).read rest :=
  assembly.read_through more rest _ (assembly.stage.foldlM_takes? block more opened goesOn)

/-- A line that does not belong to the open item finds it settled. It is read as a line
    between items then. -/
theorem read_refused (assembly : Assembly) (line : Line) (rest : List Line)
    (refused : assembly.stage.takes? line = none) :
    assembly.read (line :: rest) =
      (do ((← assembly.settle).start line).read rest) := by
  rw [read_cons, feed_refused assembly line refused]
  cases assembly.settle <;> rfl

end

/-- Closing changes nothing where nothing is open. -/
theorem closed_eq (assembly : Assembly) (idle : assembly.stage = .between) :
    { assembly with stage := .between } = assembly := by
  rw [← idle]

section

variable [NestingLimits]

/-- Where nothing is open there is nothing to settle. So it cannot fail either. -/
theorem settle_idle (assembly : Assembly) (idle : assembly.stage = .between) :
    assembly.settle = .ok assembly := by
  simp only [settle, idle, assembly.closed_eq idle]
  rfl

/-- A call without a block is settled by announcing it. This holds below its parameters and
    below its output. -/
theorem settle_call (assembly : Assembly) (call : Call) (stage : Stage)
    (idle : assembly.stage = .between) (below : stage = .params call ∨ stage = .body call) :
    ({ assembly with stage } : Assembly).settle = .ok (assembly.announce call) := by
  rcases below with rfl | rfl
  · simp only [settle, assembly.closed_eq idle]
    rfl
  · simp only [settle, assembly.closed_eq idle]
    rfl

/-- Where nothing is open a line is read as a line between items. -/
theorem read_idle (assembly : Assembly) (line : Line) (rest : List Line)
    (idle : assembly.stage = .between) :
    assembly.read (line :: rest) = (assembly.start line).read rest := by
  have refused : assembly.stage.takes? line = none := by rw [idle]; rfl
  rw [read_refused assembly line rest refused, settle_idle assembly idle]
  rfl

/-- An item that the lines do not go on with can be settled before they are
    read. -/
theorem read_settle (assembly : Assembly) (lines : List Line)
    (refused : ∀ line, lines.head? = some line → assembly.stage.takes? line = none) :
    assembly.read lines = (do (← assembly.settle).read lines) := by
  cases lines with
  | nil =>
    rw [read_nil]
    cases done : assembly.settle with
    | error reason => rfl
    | ok settled =>
      have idle := settle_stage assembly settled done
      change _ = settled.read []
      rw [read_nil, settle_idle settled idle]
  | cons line rest =>
    rw [read_refused assembly line rest (refused line rfl)]
    cases done : assembly.settle with
    | error reason => rfl
    | ok settled => exact (read_idle settled line rest (settle_stage assembly settled done)).symm

/-- Items that settle alike and take the next line alike are read alike. Only the next line
    tells which of them is open. -/
theorem read_alike (assembly : Assembly) (stage other : Stage) (rest : List Line)
    (settles : ({ assembly with stage } : Assembly).settle =
      ({ assembly with stage := other } : Assembly).settle)
    (takes : ∀ line, rest.head? = some line → stage.takes? line = other.takes? line) :
    ({ assembly with stage } : Assembly).read rest =
      ({ assembly with stage := other } : Assembly).read rest := by
  cases rest with
  | nil => rw [read_nil, read_nil, settles]
  | cons line rest =>
    have same := takes line rfl
    cases taken : other.takes? line with
    | some next =>
      rw [read_taken { assembly with stage } line rest next (same.trans taken),
        read_taken { assembly with stage := other } line rest next taken]
    | none =>
      rw [read_refused { assembly with stage } line rest (same.trans taken),
        read_refused { assembly with stage := other } line rest taken, settles]

/-- Between items a line that begins an item is read as such. -/
theorem read_begin (assembly : Assembly) (line : Line) (rest : List Line) (heading : Heading)
    (idle : assembly.stage = .between) (begins : line.heading? = some heading) :
    assembly.read (line :: rest) = (assembly.begin heading).read rest := by
  rw [read_idle assembly line rest idle, start_eq, begins]

end

/-- Without prose there is nothing to tell before the next item. -/
theorem flush_silent (assembly : Assembly) (silent : assembly.thinking = []) :
    assembly.flush = assembly := by
  obtain ⟨events, thinking, pending, stage⟩ := assembly
  cases silent
  rfl

/-- Where nothing follows, or a heading, the prose can be told before. It would be told there
    anyway. -/
theorem read_flush [NestingLimits] (assembly : Assembly) (rest : List Line)
    (idle : assembly.stage = .between)
    (ends : ∀ line, rest.head? = some line → (line.heading?).isSome = true) :
    assembly.read rest = assembly.flush.read rest := by
  have flushed : assembly.flush.flush = assembly.flush := assembly.flush.flush_silent rfl
  have flushIdle : assembly.flush.stage = .between := (flush_stage assembly).trans idle
  cases rest with
  | nil => rw [read_nil, read_nil, settle_idle assembly idle, settle_idle _ flushIdle,
      Except.map, Except.map, flushed]
  | cons line rest =>
    obtain ⟨heading, begins⟩ := Option.isSome_iff_exists.mp (ends line rfl)
    rw [read_begin assembly line rest heading idle begins,
      read_begin assembly.flush line rest heading flushIdle begins]
    cases heading <;> simp only [begin, flushed]

/-- Between items, lines that begin none and open no block are prose, less the
    noise. -/
theorem read_prose_lines [NestingLimits] (assembly : Assembly) (lines rest : List Line)
    (idle : assembly.stage = .between)
    (prose : ∀ line ∈ lines, line.heading? = none ∧
      (line.isNoise = true ∨ line.opensBlock = false)) :
    assembly.read (lines ++ rest) =
      ({ assembly with thinking := assembly.thinking ++ lines.filter (!·.isNoise) } :
        Assembly).read rest := by
  induction lines generalizing assembly with
  | nil => simp
  | cons line lines inductionHypothesis =>
    obtain ⟨noHeading, plain⟩ := prose line List.mem_cons_self
    have others := fun other member => prose other (List.mem_cons_of_mem line member)
    rw [List.cons_append, read_idle assembly line _ idle, start_eq, noHeading]
    cases noise : line.isNoise with
    | true =>
      simp only [if_true, inductionHypothesis assembly idle others, List.filter_cons, noise,
        Bool.not_true, Bool.false_eq_true, if_false]
    | false =>
      have unopened : line.opensBlock = false := by simpa [noise] using plain
      have further := inductionHypothesis
        { assembly with thinking := assembly.thinking ++ [line] } idle others
      simp only [unopened, Bool.false_eq_true, if_false]
      rw [further]
      simp [noise]

/-- Between items noise is passed over. The prose before it and behind it is one. -/
theorem read_noise [NestingLimits] (assembly : Assembly) (noise rest : List Line)
    (idle : assembly.stage = .between) (silent : ∀ line ∈ noise, line.isNoise = true) :
    assembly.read (noise ++ rest) = assembly.read rest := by
  have none : noise.filter (!·.isNoise) = [] := by
    simpa [List.filter_eq_nil_iff] using silent
  rw [read_prose_lines assembly noise rest idle fun line member =>
    ⟨line.heading?_of_isNoise (silent line member), Or.inl (silent line member)⟩, none,
    List.append_nil]

end Assembly

/-- A line that begins an item ends whatever is open, unless an open block
    consumes it. -/
theorem Stage.takes?_of_heading? (stage : Stage) (line : Line) (heading : Heading)
    (begins : line.heading? = some heading) (outside : stage.consumes line = false) :
    stage.takes? line = none := by
  cases taken : stage.takes? line with
  | none => rfl
  | some next =>
    obtain ⟨_, ⟨block, isOpen, takes, _⟩ | ⟨_, none, _⟩⟩ := stage.takes_cases next line taken
    · simp [Stage.consumes, isOpen, takes] at outside
    · rw [begins] at none
      cases none

/-- The parameters with those in lines, noise aside. A key that comes again takes
    the later value. -/
def Line.putParams (params : Table Text) (lines : List Line) : Table Text :=
  params.overlay ((lines.filter (!·.isNoise)).filterMap Line.parameter?)

/-- Parameters and noise below a call's header are read into its parameters. The induction is
    on the lines. -/
theorem Stage.foldlM_params (call : Call) (below : List Line)
    (plain : ∀ line ∈ below, line.isNoise = true ∨ (line.parameter?).isSome = true) :
    below.foldlM takes? (.params call) =
      some (.params { call with params := Line.putParams call.params below }) := by
  induction below generalizing call with
  | nil => rfl
  | cons line below inductionHypothesis =>
    have others := fun other member => plain other (List.mem_cons_of_mem line member)
    cases noise : line.isNoise with
    | true =>
      have taken : (Stage.params call).takes? line = some (.params call) := by
        simp [takes?, noise]
      rw [List.foldlM_cons, taken]
      refine (inductionHypothesis call others).trans ?_
      simp [Line.putParams, noise]
    | false =>
      obtain ⟨⟨key, value⟩, found⟩ : ∃ parameter, line.parameter? = some parameter := by
        rcases plain line List.mem_cons_self with isNoise | isParameter
        · rw [noise] at isNoise
          cases isNoise
        · exact Option.isSome_iff_exists.mp isParameter
      have taken : (Stage.params call).takes? line =
          some (.params { call with params := call.params.put key value }) := by
        simp [takes?, noise, found]
      rw [List.foldlM_cons, taken]
      refine (inductionHypothesis _ others).trans ?_
      simp [Line.putParams, Table.overlay, noise, found]

/-- The rest is read below them. -/
theorem Assembly.read_params [NestingLimits] (assembly : Assembly) (call : Call)
    (below rest : List Line)
    (plain : ∀ line ∈ below, line.isNoise = true ∨ (line.parameter?).isSome = true) :
    ({ assembly with stage := .params call } : Assembly).read (below ++ rest) =
      ({ assembly with
        stage := .params { call with params := Line.putParams call.params below } } :
          Assembly).read rest :=
  read_through { assembly with stage := .params call } below rest _
    (Stage.foldlM_params call below plain)

/-- A block whose braces balance behind its last line and not before, without a
    tool header inside and with an opening line that is no noise. -/
structure ClosedBlock where
  opening : Line
  inner : List Line
  opens : opening.opensBlock = true
  plain : opening.isNoise = false
  noHeader : ∀ line ∈ inner, line.isToolHeader = false
  openBefore : ∀ before line after, inner = before ++ line :: after →
    0 < (Block.of (opening :: before)).depth
  closes : (Block.of (opening :: inner)).depth ≤ 0

namespace ClosedBlock

/-- Braces are open before every inner line if they are behind every stretch of
    lines that leaves one over. -/
theorem openBefore_of_take (opening : Line) (inner : List Line)
    (stretches : ∀ count < inner.length, 0 < (Block.of (opening :: inner.take count)).depth)
    (before : List Line) (line : Line) (after : List Line)
    (split : inner = before ++ line :: after) : 0 < (Block.of (opening :: before)).depth := by
  have stretch := stretches before.length (by simp [split])
  rwa [split, List.take_left] at stretch

/-- A block that tells of a stored memory. -/
def stored : ClosedBlock where
  opening := "Annotated \x7b"
  inner := ["    text: \"\x7b\\\"success\\\": true\x7d\",", "\x7d"]
  opens := by decide
  plain := by decide
  noHeader := by decide
  openBefore := openBefore_of_take _ _ (by decide +kernel)
  closes := by decide +kernel

/-- The lines of the block. -/
def lines (closed : ClosedBlock) : List Line := closed.opening :: closed.inner

/-- The block as it is read. -/
def block (closed : ClosedBlock) : Block := Block.of closed.lines

/-- From its opening the block goes on through all its inner lines. Its braces balance behind
    the last of them and not before. -/
theorem goesOn (closed : ClosedBlock) : (Block.start closed.opening).GoesOn closed.inner := by
  intro before line after split
  have isOpen := closed.openBefore before line after split
  have plain := closed.noHeader line (by simp [split])
  rw [Block.start_eq_of, Block.append_of, List.singleton_append]
  simp [Block.takes, isOpen, plain]

/-- All lines of the block behind its opening are read into the block, whatever item
    the block stands below. -/
theorem read_block [NestingLimits] (closed : ClosedBlock) (assembly : Assembly) (stage : Stage)
    (opened : stage.block? = some (Block.start closed.opening)) (rest : List Line) :
    ({ assembly with stage } : Assembly).read (closed.inner ++ rest) =
      ({ assembly with stage := stage.withBlock closed.block } : Assembly).read rest := by
  have whole := Assembly.read_open { assembly with stage } _ closed.inner rest opened closed.goesOn
  rwa [Block.start_eq_of, Block.append_of] at whole

end ClosedBlock

end AgentRuns
