import AgentRuns.Proofs.Transcript.Items

/-!
# Reading items

Below its heading an item takes exactly the lines that were written for it, and
the line behind them settles it. Reading an item is thus one step from settled
assembly to settled assembly, in which the item is told; a call with a block
answers whoever has waited longest besides. A sequence of items is read by these
steps, one after the other.
-/

namespace AgentRuns

/-- Prose without a line is the empty text, and no other prose is. Its lines are not blank. -/
theorem Prose.isEmpty_unlines {lines : List Line} (prose : Prose lines) :
    (Text.unlines lines).isEmpty = lines.isEmpty := by
  cases lines with
  | nil => rfl
  | cons first more =>
    have plain := prose.plain first List.mem_cons_self
    cases first with
    | nil => cases plain
    | cons c rest =>
      obtain ⟨tail, begins⟩ := Text.unlines_head c rest more
      rw [begins]
      rfl

/-- Prose stands below a heading as it was written. Stripping it takes nothing away. -/
theorem Prose.withOutput_eq {output : List Line} (prose : Prose output) (heading : Text) :
    withOutput heading output = Text.unlines (heading :: output) := by
  simp only [withOutput, prose.trimmed, prose.isEmpty_unlines]
  cases output with
  | nil => simp [Text.unlines]
  | cons first more => simp [Text.unlines, List.intercalate_cons_cons]; rfl

/-- A proper thought is reasoning. No line of it is filtered out, and it does not begin like
    the tail of a block. -/
theorem Item.reasoning?_thought (lines : List Line) (proper : (Item.thought lines).Proper) :
    Event.reasoning? lines = some ((Item.thought lines).event none) := by
  obtain ⟨someLine, prose, noLeak, noDebris⟩ := proper
  have kept : lines.filter (!·.leaksBlock) = lines := by
    rw [List.filter_eq_self]
    intro line member
    simp [noLeak line member]
  have spoken : lines.isEmpty = false := by simpa using someLine
  simp [Event.reasoning?, kept, prose.trimmed, prose.isEmpty_unlines, spoken, noDebris,
    Item.event]

/-- The parameters of a proper call are read as they were written. Their names are distinct,
    so none is replaced. -/
theorem WrittenCall.putParams_eq (call : WrittenCall) (proper : call.Proper) :
    Line.putParams [] (call.params.map Line.ofParameter) = call.params := by
  have loud : (call.params.map Line.ofParameter).filter (!·.isNoise) =
      call.params.map Line.ofParameter := by
    rw [List.filter_eq_self]
    intro line member
    obtain ⟨parameter, among, rfl⟩ := List.mem_map.mp member
    simp [proper.loud parameter among]
  have found : (call.params.map Line.ofParameter).filterMap Line.parameter? = call.params := by
    rw [List.filterMap_map]
    refine (List.filterMap_congr fun parameter among => ?_).trans List.filterMap_some
    exact Line.parameter?_ofParameter parameter (proper.keys parameter among)
      (proper.values parameter among)
  rw [Line.putParams, loud, found]
  exact Table.overlay_fresh [] call.params proper.distinct

/-- The call with some of its output. -/
def WrittenCall.body (call : WrittenCall) (output : List Line) : Stage :=
  .body { call.read with output }

/-- A plain line goes on with the output of a call. The first one is no parameter, and behind
    it none is looked for. -/
theorem WrittenCall.takes?_body (call : WrittenCall) (output : List Line) (line : Line)
    (plain : line.isPlain = true) :
    (call.body output).takes? line = some (call.body (output ++ [line])) := by
  obtain ⟨inner, notOpening, loud⟩ := line.isPlain_iff.mp plain
  simp [body, Stage.takes?, Stage.callTakes?, inner, notOpening, loud]

namespace Assembly

variable [NestingLimits]

/-- Plain lines below a heading are read into its output. The induction is on the lines. -/
theorem read_output (assembly : Assembly) (shape : List Line → Stage)
    (grows : ∀ output line, line.isPlain = true →
      (shape output).takes? line = some (shape (output ++ [line])))
    (before output rest : List Line) (plain : ∀ line ∈ output, line.isPlain = true) :
    ({ assembly with stage := shape before } : Assembly).read (output ++ rest) =
      ({ assembly with stage := shape (before ++ output) } : Assembly).read rest := by
  induction output generalizing before with
  | nil => rw [List.nil_append, List.append_nil]
  | cons line output inductionHypothesis =>
    rw [List.cons_append,
      read_taken _ line _ _ (grows before line (plain line List.mem_cons_self))]
    have others := inductionHypothesis (before ++ [line]) fun other member =>
      plain other (List.mem_cons_of_mem line member)
    rw [List.append_assoc, List.singleton_append] at others
    exact others

/-- Details below a session line are passed over. They leave no trace in its event. -/
theorem read_details (assembly : Assembly) (provider model : Text) (details rest : List Line)
    (labelled : ∀ detail ∈ details, (detail.sessionDetail?).isSome = true) :
    ({ assembly with stage := .session provider model } : Assembly).read (details ++ rest) =
      ({ assembly with stage := .session provider model } : Assembly).read rest := by
  induction details with
  | nil => rfl
  | cons detail details inductionHypothesis =>
    have first := labelled detail List.mem_cons_self
    rw [List.cons_append, read_taken _ detail _ (.session provider model)
      (by simp [Stage.takes?, first])]
    exact inductionHypothesis fun other member =>
      labelled other (List.mem_cons_of_mem detail member)

/-- The parameters of a call and the output below them are read into the call. Whether there
    is output decides on the stage. -/
theorem read_written (assembly : Assembly) (call : WrittenCall) (proper : call.Proper) :
    ∃ stage, (stage = .params call.read ∨ stage = .body call.read) ∧ ∀ rest,
      ({ assembly with stage := .params { tool := call.tool, extension := call.extension } } :
        Assembly).read (call.params.map Line.ofParameter ++ (call.output ++ rest)) =
      ({ assembly with stage } : Assembly).read rest := by
  have plain : ∀ line ∈ call.params.map Line.ofParameter,
      line.isNoise = true ∨ (line.parameter?).isSome = true := by
    intro line member
    obtain ⟨parameter, among, rfl⟩ := List.mem_map.mp member
    rw [Line.parameter?_ofParameter parameter (proper.keys parameter among)
      (proper.values parameter among)]
    exact Or.inr rfl
  cases output : call.output with
  | nil =>
    refine ⟨.params call.read, Or.inl rfl, fun rest => ?_⟩
    rw [List.nil_append, read_params _ _ _ rest plain, call.putParams_eq proper,
      WrittenCall.read, output]
  | cons first more =>
    refine ⟨.body call.read, Or.inr rfl, fun rest => ?_⟩
    have taken : (Stage.params { call.read with output := [] }).takes? first =
        some (call.body [first]) :=
      Stage.takes?_output _ first (proper.output.plain first (by simp [output]))
        (proper.apart first (by simp [output]))
    have others := read_output assembly call.body call.takes?_body [first] more rest
      fun line member => proper.output.plain line (by simp [output, member])
    rw [read_params _ _ _ _ plain, call.putParams_eq proper, List.cons_append,
      read_taken _ first _ _ taken]
    refine others.trans ?_
    rw [List.singleton_append, ← output]
    rfl

/-- The assembly behind an item. -/
def tell (assembly : Assembly) (item : Item) : Except SummaryError Assembly :=
  match item with
  | .call written =>
    match written.block? with
    | some closed =>
      if capturesResult written.tool then
        (assembly.announce written.read).answerBy closed.block
      else return assembly.announce written.read
    | none => return assembly.announce written.read
  | item => return assembly.emit (item.event none)

end Assembly

/-- Whether the lines end the item: nothing follows, or a heading, or else the
    item takes no more prose. -/
def Item.endsBefore (item : Item) (rest : List Line) : Prop :=
  ∀ line, rest.head? = some line → (line.heading?).isSome = true ∨
    (item.admitsThought = true ∧ line.sessionDetail? = none)

/-- An item ends before the next one, as long as it admits a thought that comes
    next. -/
theorem Item.endsBefore_next (item next : Item) (rest : List Line) (proper : next.Proper)
    (placed : next.isThought = true → item.admitsThought = true) :
    item.endsBefore (next.lines ++ rest) := by
  obtain ⟨first, more, begins, sameHeading, thought⟩ := next.lines_cons proper
  intro line isFirst
  rw [begins] at isFirst
  cases isFirst
  rw [sameHeading]
  cases next with
  | run | session | command | call => exact Or.inl rfl
  | thought lines => exact Or.inr ⟨placed rfl, (thought rfl).2⟩

namespace Assembly

variable (assembly : Assembly) (rest : List Line)

variable [NestingLimits]

/-- A run header is told as it is written. -/
theorem read_run (name id : Text) (proper : (Item.run name id).Proper)
    (idle : assembly.stage = .between) (silent : assembly.thinking = []) :
    assembly.read ((Item.run name id).lines ++ rest) =
      (assembly.emit ((Item.run name id).event none)).read rest := by
  obtain ⟨nameFilled, idFilled, loud⟩ := proper
  have begins := Line.heading?_ofRun name id nameFilled idFilled loud
  rw [Item.lines, List.singleton_append, read_begin assembly _ rest _ idle begins, begin,
    assembly.flush_silent silent]
  rfl

/-- A session with its details is told as it is written. What follows must be no further
    detail. -/
theorem read_session (provider model : Text) (details : List Line)
    (proper : (Item.session provider model details).Proper)
    (idle : assembly.stage = .between) (silent : assembly.thinking = [])
    (ends : (Item.session provider model details).endsBefore rest) :
    assembly.read ((Item.session provider model details).lines ++ rest) =
      (assembly.emit ((Item.session provider model details).event none)).read rest := by
  obtain ⟨providerFilled, modelFilled, loud, labelled⟩ := proper
  have begins := Line.heading?_ofSession provider model providerFilled modelFilled loud
  rw [Item.lines, List.cons_append, read_begin assembly _ _ _ idle begins, begin,
    assembly.flush_silent silent, read_details assembly provider model details rest labelled,
    read_settle]
  · simp only [settle, assembly.closed_eq idle]
    rfl
  · intro line first
    rcases ends line first with heading | ⟨_, notDetail⟩
    · obtain ⟨heading, begins⟩ := Option.isSome_iff_exists.mp heading
      exact (Stage.session provider model).takes?_of_heading? line heading begins rfl
    · simp [Stage.takes?, notDetail]

/-- A command with its output is told as it is written. What follows must begin an item. -/
theorem read_command (text : Text) (output : List Line)
    (proper : (Item.command text output).Proper)
    (idle : assembly.stage = .between) (silent : assembly.thinking = [])
    (ends : (Item.command text output).endsBefore rest) :
    assembly.read ((Item.command text output).lines ++ rest) =
      (assembly.emit ((Item.command text output).event none)).read rest := by
  obtain ⟨filled, loud, prose⟩ := proper
  have begins := Line.heading?_ofCommand text filled loud
  have grows (before : List Line) (line : Line) (plain : line.isPlain = true) :
      (Stage.command text before).takes? line = some (.command text (before ++ [line])) := by
    obtain ⟨inner, notOpening, loud⟩ := line.isPlain_iff.mp plain
    simp [Stage.takes?, Stage.commandTakes?, inner, notOpening, loud]
  have told : Event.ofCommand text output = (Item.command text output).event none := by
    simp [Event.ofCommand, Item.event, prose.withOutput_eq]
  rw [Item.lines, List.cons_append, read_begin assembly _ _ _ idle begins, begin,
    assembly.flush_silent silent,
    read_output assembly (Stage.command text) grows [] output rest prose.plain, read_settle]
  · simp only [settle, assembly.closed_eq idle, List.nil_append, told]
    rfl
  · intro line first
    rcases ends line first with heading | ⟨admits, _⟩
    · obtain ⟨heading, begins⟩ := Option.isSome_iff_exists.mp heading
      exact (Stage.command text _).takes?_of_heading? line heading begins rfl
    · cases admits

/-- A call with its parameters, its output and its block is told as it is written, and the
    block answers. -/
theorem read_call (written : WrittenCall) (proper : written.Proper)
    (idle : assembly.stage = .between) (silent : assembly.thinking = [])
    (ends : (Item.call written).endsBefore rest) :
    assembly.read ((Item.call written).lines ++ rest) =
      (do (← assembly.tell (.call written)).read rest) := by
  have begins := Line.heading?_ofCall _ _ written.rule proper.tool proper.extension
  obtain ⟨stage, below, read⟩ := assembly.read_written written proper
  rw [Item.lines, WrittenCall.lines, List.cons_append, List.append_assoc, List.append_assoc,
    read_begin assembly _ _ _ idle begins, begin, assembly.flush_silent silent, read, tell]
  cases block : written.block? with
  | some closed =>
    refine (assembly.read_answer written.read stage closed rest idle below).trans ?_
    change (if capturesResult written.tool then _ else _) = _
    split <;> rfl
  | none =>
    rw [Option.map_none, Option.getD_none, List.nil_append, read_settle,
      settle_call assembly written.read stage idle below]
    · rfl
    · intro line first
      rcases ends line first with heading | ⟨admits, _⟩
      · obtain ⟨heading, begins⟩ := Option.isSome_iff_exists.mp heading
        refine stage.takes?_of_heading? line heading begins ?_
        rcases below with rfl | rfl <;> rfl
      · simp [Item.admitsThought, block] at admits

/-- Plain lines between items are gathered as prose. The induction is on the lines. -/
theorem read_prose (lines : List Line) (plain : ∀ line ∈ lines, line.isPlain = true)
    (idle : assembly.stage = .between) :
    assembly.read (lines ++ rest) =
      ({ assembly with thinking := assembly.thinking ++ lines } : Assembly).read rest := by
  have all : lines.filter (!·.isNoise) = lines := by
    refine List.filter_eq_self.mpr fun line member => ?_
    obtain ⟨_, _, loud⟩ := line.isPlain_iff.mp (plain line member)
    rw [loud, Bool.not_false]
  rw [read_prose_lines assembly lines rest idle fun line member =>
    ⟨line.heading?_of_isPlain (plain line member),
      Or.inr (line.isPlain_iff.mp (plain line member)).2.1⟩, all]

/-- A thought is told as it is written. What follows must begin an item. -/
theorem read_thought (lines : List Line) (proper : (Item.thought lines).Proper)
    (idle : assembly.stage = .between) (silent : assembly.thinking = [])
    (ends : (Item.thought lines).endsBefore rest) :
    assembly.read ((Item.thought lines).lines ++ rest) =
      (assembly.emit ((Item.thought lines).event none)).read rest := by
  have spoken := Item.reasoning?_thought lines proper
  have gathered := assembly.read_prose rest lines proper.2.1.plain idle
  have told : ({ assembly with thinking := lines } : Assembly).flush =
      assembly.emit ((Item.thought lines).event none) := by
    simp only [flush, spoken]
    exact congrArg (fun thinking => { assembly.emit ((Item.thought lines).event none) with
      thinking }) silent.symm
  rw [silent, List.nil_append] at gathered
  rw [Item.lines, gathered, ← told]
  refine read_flush { assembly with thinking := lines } rest idle ?_
  intro line first
  rcases ends line first with heading | ⟨admits, _⟩
  · exact heading
  · cases admits

/-- A proper item is read in one step, whatever was read before it, as long as
    the line behind it ends it. -/
theorem read_item (item : Item) (proper : item.Proper) (idle : assembly.stage = .between)
    (silent : assembly.thinking = []) (ends : item.endsBefore rest) :
    assembly.read (item.lines ++ rest) = (do (← assembly.tell item).read rest) := by
  cases item with
  | run name id => exact assembly.read_run rest name id proper idle silent
  | session provider model details =>
    exact assembly.read_session rest provider model details proper idle silent ends
  | command text output => exact assembly.read_command rest text output proper idle silent ends
  | call written => exact assembly.read_call rest written proper idle silent ends
  | thought lines => exact assembly.read_thought rest lines proper idle silent ends

/-- Behind an item nothing is open and no prose is gathered. So the next item is read from
    there in the same way. -/
theorem tell_idle (item : Item) (told : Assembly) (idle : assembly.stage = .between)
    (silent : assembly.thinking = []) (done : assembly.tell item = .ok told) :
    told.stage = .between ∧ told.thinking = [] := by
  have emitted (event : Event) :
      (assembly.emit event).stage = .between ∧ (assembly.emit event).thinking = [] :=
    ⟨idle, silent⟩
  have announced (call : Call) :
      (assembly.announce call).stage = .between ∧ (assembly.announce call).thinking = [] := by
    rw [announce_eq]
    exact ⟨idle, silent⟩
  cases item with
  | run | session | command | thought =>
    cases done
    exact emitted _
  | call written =>
    unfold tell at done
    dsimp only at done
    split at done
    · split at done
      · rename_i closed _ _
        obtain ⟨sameStage, sameThinking⟩ := answerBy_keeps _ told closed.block done
        exact ⟨sameStage.trans (announced written.read).1,
          sameThinking.trans (announced written.read).2⟩
      · cases done
        exact announced written.read
    · cases done
      exact announced written.read

/-- Proper items are read step by step. The induction is on the items, and each of them ends
    where the next one begins. -/
theorem read_items (items : List Item) (proper : ∀ item ∈ items, item.Proper)
    (placed : items.IsChain fun item next => next.isThought = true → item.admitsThought = true)
    (idle : assembly.stage = .between) (silent : assembly.thinking = []) :
    assembly.read (items.flatMap Item.lines) = (items.foldlM tell assembly).map (·.events) := by
  induction items generalizing assembly with
  | nil =>
    rw [List.flatMap_nil, read_nil, settle_idle assembly idle, List.foldlM_nil, Except.map,
      assembly.flush_silent silent]
    rfl
  | cons item items inductionHypothesis =>
    have ends : item.endsBefore (items.flatMap Item.lines) := by
      cases items with
      | nil =>
        intro line impossible
        cases impossible
      | cons next items =>
        have follows := (List.isChain_cons_cons.mp placed).1
        exact item.endsBefore_next next _ (proper next (by simp)) follows
    have whole := assembly.read_item _ item (proper item List.mem_cons_self) idle silent ends
    rw [List.flatMap_cons, whole, List.foldlM_cons]
    cases done : assembly.tell item with
    | error reason => rfl
    | ok told =>
      obtain ⟨toldIdle, toldSilent⟩ := assembly.tell_idle item told idle silent done
      have others := fun other member => proper other (List.mem_cons_of_mem item member)
      exact inductionHypothesis told others placed.tail toldIdle toldSilent

end Assembly

end AgentRuns
