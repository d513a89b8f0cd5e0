import AgentRuns.Proofs.Text.Lines
import AgentRuns.Proofs.Transcript.Boundary
import AgentRuns.Proofs.Transcript.Growth
import AgentRuns.Proofs.Transcript.ItemReading

/-!
# Noise among the lines of a transcript

Noise that begins no item and opens no block leaves almost every assembly as it
is: between items it is passed over, among parameters and output it is left out.
Wherever it is inserted, the rest of the transcript is read from the same
assembly and tells the same events.

The details of a session are the exception. They end at the first line that is
no detail, noise or not, so noise cuts those off that stand behind it. A detail
that is cut off is prose, and prose that begins with a detail is always told: it
is no field of a block and no debris. So noise is seen exactly where it stands
below a session line and its details and a further detail follows, unless it is
a detail itself or all details behind it are noise too.
-/

namespace AgentRuns

namespace Line

/-- Whether the line is a detail of a session. -/
def isDetail (line : Line) : Bool := (sessionDetail? line).isSome

/-- A detail of a session begins with one of two labels behind its indent. The first letter
    tells the two apart. -/
theorem stripStart_detail (line : Line) (detail : line.isDetail = true) :
    ∃ c rest, Text.stripStart line = c :: rest ∧ (c = .char 's' ∨ c = .char 'w') := by
  obtain ⟨label, found⟩ := Option.isSome_iff_exists.mp detail
  simp only [sessionDetail?, Option.bind_eq_bind, Option.bind_eq_some_iff, Prod.exists,
    some?_eq_some] at found
  obtain ⟨indent, rest, ⟨rfl, ⟨_, blank⟩, outside⟩, labelled⟩ := found
  have stripped : Text.stripStart (indent ++ rest) = rest := by
    rw [Text.stripStart, List.dropWhile_append_of_pos blank, List.dropWhile_eq_self_iff]
    intro some
    have first := outside (rest.head (List.ne_nil_of_length_pos some)) (List.head?_eq_some_head _)
    simpa [List.head_eq_getElem] using first
  rw [stripped]
  simp only [Option.or_eq_some_iff, Option.bind_eq_some_iff, Text.after?_eq_some] at labelled
  rcases labelled with ⟨_, ⟨_, ⟨tail, rfl, _⟩, _⟩, _⟩ | ⟨_, _, ⟨_, ⟨tail, rfl, _⟩, _⟩, _⟩
  · exact ⟨'s', _, rfl, Or.inl rfl⟩
  · exact ⟨'w', _, rfl, Or.inr rfl⟩

/-- A detail of a session is not blank. It has a label. -/
theorem allBlank_detail (line : Line) (detail : line.isDetail = true) :
    Text.allBlank line = false := by
  obtain ⟨c, rest, form, _⟩ := line.stripStart_detail detail
  rw [Bool.eq_false_iff, ne_eq, ← Text.stripStart_eq_nil, form]
  exact List.cons_ne_nil c rest

/-- A detail of a session is no field of a block. No field begins like one of the labels. -/
theorem leaksBlock_detail (line : Line) (detail : line.isDetail = true) :
    line.leaksBlock = false := by
  obtain ⟨c, rest, form, rfl | rfl⟩ := line.stripStart_detail detail
  · unfold leaksBlock
    rw [form]
    rfl
  · unfold leaksBlock
    rw [form]
    rfl

/-- A detail of a session begins no item and opens no block. So it is prose where no session
    is open. -/
theorem prose_of_detail (line : Line) (detail : line.isDetail = true) :
    line.heading? = none ∧ line.opensBlock = false :=
  ⟨line.heading?_of_isStructural (line.isStructural_of_isOf .detail detail (by simp)),
    line.isOf_other .detail .opening detail (by decide)⟩

end Line

/-- Lines that begin with a detail of a session, without the blanks before it. -/
theorem Text.stripStart_details (detail : Line) (more : List Line)
    (isDetail : detail.isDetail = true) :
    ∃ c rest, stripStart (unlines (detail :: more)) = c :: rest ∧
      (c = .char 's' ∨ c = .char 'w') := by
  obtain ⟨c, rest, form, label⟩ := detail.stripStart_detail isDetail
  obtain ⟨tail, begins⟩ := Text.unlines_head c rest more
  refine ⟨c, tail, ?_, label⟩
  rw [stripStart_unlines detail more (detail.allBlank_detail isDetail), form, begins]

namespace Event

/-- Prose that begins with a detail of a session is told. It does not begin like the tail of a
    block. -/
theorem reasoning?_detail (detail : Line) (more : List Line) (isDetail : detail.isDetail = true) :
    ∃ event, reasoning? (detail :: more) = some event ∧
      event.content = Text.strip (Text.unlines (detail :: more.filter (!·.leaksBlock))) := by
  have kept : (detail :: more).filter (!·.leaksBlock) = detail :: more.filter (!·.leaksBlock) := by
    simp [Line.leaksBlock_detail detail isDetail]
  obtain ⟨c, rest, form, label⟩ :=
    Text.stripStart_details detail (more.filter (!·.leaksBlock)) isDetail
  have visible : Text.isBlank c = false := by rcases label with rfl | rfl <;> decide
  obtain ⟨text, stripped⟩ := Text.stripEnd_cons c rest visible
  have content : Text.strip (Text.unlines (detail :: more.filter (!·.leaksBlock))) = c :: text := by
    rw [Text.strip, form, stripped]
  have noDebris : (Line.debris? (c :: text)).isSome = false := by
    rcases label with rfl | rfl <;> rfl
  refine ⟨{ kind := .agentThinking, content := c :: text }, ?_, content.symm⟩
  simp [reasoning?, kept, content, noDebris]

/-- Prose behind details of a session is not told as it is without them. The contents differ
    in length. -/
theorem reasoning?_details_ne (detail : Line) (more prose : List Line)
    (isDetail : detail.isDetail = true) :
    reasoning? (detail :: more ++ prose) ≠ reasoning? prose := by
  intro same
  obtain ⟨event, told, content⟩ := reasoning?_detail detail (more ++ prose) isDetail
  rw [List.cons_append, told] at same
  obtain ⟨someText, _, rfl⟩ := (reasoning?_eq_some prose event).mp same.symm
  have notBlank : Text.allBlank (Text.unlines (prose.filter (!·.leaksBlock))) = false := by
    rwa [ne_eq, Text.strip_eq_nil, Bool.not_eq_true] at someText
  have someLine : prose.filter (!·.leaksBlock) ≠ [] := by
    intro none
    rw [none] at notBlank
    cases notBlank
  have detailsNotBlank :
      Text.allBlank (Text.unlines (detail :: more.filter (!·.leaksBlock))) = false := by
    obtain ⟨c, rest, form, _⟩ :=
      Text.stripStart_details detail (more.filter (!·.leaksBlock)) isDetail
    rw [Bool.eq_false_iff, ne_eq, ← Text.stripStart_eq_nil, form]
    exact List.cons_ne_nil c rest
  have longer := Text.length_strip_lt _ _ detailsNotBlank notBlank
  rw [← Text.unlines_append _ _ (List.cons_ne_nil _ _) someLine, List.cons_append,
    ← List.filter_append, ← content] at longer
  exact Nat.lt_irrefl _ longer

end Event

/-- Lines are prose up to the first one that begins an item. Noise among them is counted as
    prose here. -/
theorem Line.split_at_heading (lines : List Line) : ∃ prose items, lines = prose ++ items ∧
    (∀ line ∈ prose, line.heading? = none) ∧
    ∀ line, items.head? = some line → (line.heading?).isSome = true := by
  induction lines with
  | nil => exact ⟨[], [], rfl, by simp, by simp⟩
  | cons line rest inductionHypothesis =>
    cases begins : line.heading? with
    | some heading => exact ⟨[], line :: rest, rfl, by simp, by simp [begins]⟩
    | none =>
      obtain ⟨prose, items, rfl, inner, ends⟩ := inductionHypothesis
      exact ⟨line :: prose, items, rfl, by simpa [begins] using inner, ends⟩

namespace Stage

/-- A line that opens no block leaves none open where none was. -/
theorem block?_taken (stage next : Stage) (line : Line) (closed : stage.block? = none)
    (plain : line.opensBlock = false) (taken : stage.takes? line = some next) :
    next.block? = none := by
  cases stage.takes_of_takes? next line taken with
  | detail | noise | param => rfl
  | command text output _ below =>
    simp only [commandTakes?, plain] at below
    grind [block?]
  | behindParams call _ below | body call _ below =>
    simp only [callTakes?, plain] at below
    grind [block?]
  | behindBlock | commandBlock | answer | detached => cases closed

/-- A session takes its details and nothing else. Noise is none of them, unless it is a detail
    itself. -/
theorem takes?_session (provider model : Text) (line : Line) :
    (Stage.session provider model).takes? line =
      if line.isDetail then some (.session provider model) else none := rfl

/-- Nothing but an open session has the heading of a session. -/
theorem heading?_eq_session (stage : Stage) (provider model : Text) :
    stage.heading? = some (.session provider model) ↔ stage = .session provider model := by
  cases stage <;> simp [heading?]

end Stage

namespace Assembly

/-- Where no block is open, none is captured. So nothing can fail there. -/
theorem captured?_none (assembly : Assembly) (closed : assembly.stage.block? = none) :
    assembly.captured? = none := by
  cases captured : assembly.captured? with
  | none => rfl
  | some block =>
    rw [assembly.block?_of_captured? block captured] at closed
    cases closed

variable [NestingLimits]

/-- Where no block is open, a line that opens none is read and leaves none open. -/
theorem feed_plain (assembly : Assembly) (line : Line) (closed : assembly.stage.block? = none)
    (plain : line.opensBlock = false) :
    ∃ fed, assembly.feed line = .ok fed ∧ fed.stage.block? = none := by
  cases taken : assembly.stage.takes? line with
  | some stage =>
    exact ⟨{ assembly with stage }, assembly.feed_taken line stage taken,
      assembly.stage.block?_taken stage line closed plain taken⟩
  | none =>
    have nothing : assembly.captured? = none := assembly.captured?_none closed
    refine ⟨assembly.told.start line, ?_, ?_⟩
    · rw [feed_refused assembly line taken, settle_eq, nothing]
      rfl
    · rw [start_eq]
      cases line.heading? with
      | some heading => cases heading <;> simp [begin, Stage.block?]
      | none => simp only [plain]; split <;> simp [Stage.block?]

/-- Lines that open no block are read from wherever none is open. The induction is on the
    lines. -/
theorem fold_plain (lines : List Line) (assembly : Assembly)
    (closed : assembly.stage.block? = none)
    (plain : ∀ line ∈ lines, line.opensBlock = false) :
    ∃ final, lines.foldlM feed assembly = .ok final ∧ final.stage.block? = none := by
  induction lines generalizing assembly with
  | nil => exact ⟨assembly, rfl, closed⟩
  | cons line rest inductionHypothesis =>
    obtain ⟨fed, read, stillClosed⟩ :=
      assembly.feed_plain line closed (plain line List.mem_cons_self)
    obtain ⟨final, others, ended⟩ := inductionHypothesis fed stillClosed fun other member =>
      plain other (List.mem_cons_of_mem line member)
    refine ⟨final, ?_, ended⟩
    rw [List.foldlM_cons, read]
    exact others

/-- Where no block is open, lines that open none are told. No payload is decoded for them. -/
theorem read_plain (lines : List Line) (assembly : Assembly)
    (closed : assembly.stage.block? = none)
    (plain : ∀ line ∈ lines, line.opensBlock = false) :
    ∃ events, assembly.read lines = .ok events := by
  obtain ⟨final, read, ended⟩ := assembly.fold_plain lines closed plain
  have nothing : final.captured? = none := final.captured?_none ended
  refine ⟨final.told.flush.events, ?_⟩
  rw [Assembly.read, read]
  change final.finish = _
  rw [finish, settle_eq, nothing]
  rfl

/-- Noise below anything but a session leaves an assembly without an open block as
    it is, and below a session if it is a detail. -/
theorem feed_noise (assembly : Assembly) (line : Line) (closed : assembly.stage.block? = none)
    (noise : line.isNoise = true) (inner : line.isStructural = false)
    (plain : line.opensBlock = false)
    (belongs : ∀ provider model, assembly.stage = .session provider model →
      line.isDetail = true) :
    assembly.feed line = .ok assembly := by
  cases stage : assembly.stage with
  | between =>
    have refused : assembly.stage.takes? line = none := by rw [stage]; rfl
    rw [feed_refused assembly line refused, settle_idle assembly stage, Except.map, start_eq,
      line.heading?_of_isNoise noise]
    simp [noise]
  | session provider model =>
    have detail := belongs provider model stage
    rw [feed_taken assembly line assembly.stage (by simp [stage, Stage.takes?_session, detail])]
  | command text output =>
    rw [feed_taken assembly line assembly.stage
      (by simp [stage, Stage.takes?, Stage.commandTakes?, inner, plain, noise])]
  | params call =>
    rw [feed_taken assembly line assembly.stage (by simp [stage, Stage.takes?, noise])]
  | body call =>
    rw [feed_taken assembly line assembly.stage
      (by simp [stage, Stage.takes?, Stage.callTakes?, inner, plain, noise])]
  | commandBlock | answer | detached =>
    rw [stage] at closed
    cases closed

end Assembly

/-- Whether a transcript ends below a session line, with nothing but details of the
    session behind it. -/
def BelowSession (provider model : Text) (lines : List Line) : Prop :=
  ∃ front opening details, lines = front ++ opening :: details ∧
    opening.heading? = some (.session provider model) ∧
    ∀ detail ∈ details, detail.isDetail = true

/-- A transcript ends below a session line if this is its last line, or if it did
    before a last line that is a detail. -/
theorem belowSession_concat (provider model : Text) (lines : List Line) (line : Line) :
    BelowSession provider model (lines ++ [line]) ↔
      line.heading? = some (.session provider model) ∨
        (BelowSession provider model lines ∧ line.isDetail = true) := by
  constructor
  · rintro ⟨front, opening, details, split, begins, labelled⟩
    rcases List.eq_nil_or_concat details with rfl | ⟨others, last, rfl⟩
    · obtain ⟨_, same⟩ := List.append_inj' split rfl
      cases same
      exact Or.inl begins
    · rw [List.concat_eq_append, ← List.cons_append, ← List.append_assoc] at split
      obtain ⟨rfl, same⟩ := List.append_inj' split rfl
      cases same
      exact Or.inr ⟨⟨front, opening, others, rfl, begins, fun detail member =>
        labelled detail (by simp [member])⟩, labelled line (by simp)⟩
  · rintro (begins | ⟨⟨front, opening, details, rfl, begins, labelled⟩, detail⟩)
    · exact ⟨lines, line, [], rfl, begins, by simp⟩
    · refine ⟨front, opening, details ++ [line], by simp, begins, ?_⟩
      intro other member
      rcases List.mem_append.mp member with old | new
      · exact labelled other old
      · rw [List.mem_singleton.mp new]
        exact detail

namespace Assembly

section

variable [NestingLimits]

/-- Without blocks, a session is open behind a line that begins it, and behind a
    detail if it was open before. -/
theorem feed_session_iff (assembly fed : Assembly) (line : Line) (provider model : Text)
    (closed : assembly.stage.block? = none) (plain : line.opensBlock = false)
    (done : assembly.feed line = .ok fed) :
    fed.stage = .session provider model ↔ line.heading? = some (.session provider model) ∨
      (assembly.stage = .session provider model ∧ line.isDetail = true) := by
  rcases assembly.feed_cases fed line done with
    ⟨stage, taken, rfl⟩ | ⟨refused, settled, settles, rfl⟩
  · obtain ⟨sameHeading, forms⟩ := assembly.stage.takes_cases stage line taken
    have noHeading : line.heading? = none := by
      rcases forms with ⟨block, isOpen, _⟩ | ⟨_, noHeading, _⟩
      · rw [closed] at isOpen
        cases isOpen
      · exact noHeading
    have same : stage = .session provider model ↔ assembly.stage = .session provider model := by
      rw [← Stage.heading?_eq_session, sameHeading, Stage.heading?_eq_session]
    have detail (isOpen : assembly.stage = .session provider model) : line.isDetail = true := by
      rw [isOpen, Stage.takes?_session] at taken
      by_contra noDetail
      rw [if_neg noDetail] at taken
      cases taken
    simp only [same, noHeading, reduceCtorEq, false_or]
    exact ⟨fun isOpen => ⟨isOpen, detail isOpen⟩, And.left⟩
  · have idle := settle_stage assembly settled settles
    have notBelow : ¬(assembly.stage = .session provider model ∧ line.isDetail = true) := by
      rintro ⟨isOpen, detail⟩
      rw [isOpen, Stage.takes?_session, if_pos detail] at refused
      cases refused
    rw [start_eq]
    cases line.heading? with
    | some heading => cases heading <;> simp [begin, idle, notBelow]
    | none =>
      simp only [plain, notBelow, reduceCtorEq, or_false, iff_false]
      split <;> simp [idle]

/-- Without blocks, a session is open exactly below a session line. The induction is on the
    lines, from the last one. -/
theorem fold_session_iff (lines : List Line) (state : Assembly) (provider model : Text)
    (plain : ∀ line ∈ lines, line.opensBlock = false)
    (fed : lines.foldlM feed {} = .ok state) :
    state.stage = .session provider model ↔ BelowSession provider model lines := by
  induction lines using List.reverseRecOn generalizing state with
  | nil =>
    cases fed
    simp [BelowSession]
  | append_singleton before line inductionHypothesis =>
    have plainBefore : ∀ other ∈ before, other.opensBlock = false := fun other member =>
      plain other (by simp [member])
    obtain ⟨middle, fedBefore, fedLine⟩ := foldlM_part before [line] {} state fed
    obtain ⟨last, step, done⟩ := ok_of_foldlM feed line [] middle state fedLine
    cases done
    have closed : middle.stage.block? = none := by
      obtain ⟨final, read, ended⟩ := ({} : Assembly).fold_plain before rfl plainBefore
      rw [fedBefore] at read
      cases read
      exact ended
    rw [middle.feed_session_iff state line provider model closed (plain line (by simp)) step,
      inductionHypothesis middle plainBefore fedBefore, belowSession_concat]

/-- Behind a session and its details the rest is read as behind the told session. -/
theorem read_behind_session (assembly : Assembly) (provider model : Text) (lines : List Line)
    (isOpen : assembly.stage = .session provider model) :
    assembly.read lines = assembly.told.read (lines.dropWhile Line.isDetail) := by
  have settled : assembly.settle = .ok assembly.told := by
    rw [settle_eq, captured?_none assembly (by rw [isOpen]; rfl)]
  induction lines with
  | nil => rw [List.dropWhile_nil, read_settle assembly [] (by simp), settled]; rfl
  | cons line rest inductionHypothesis =>
    by_cases detail : line.isDetail = true
    · rw [List.dropWhile_cons_of_pos detail, ← inductionHypothesis,
        read_taken assembly line rest assembly.stage
          (by rw [isOpen, Stage.takes?_session, if_pos detail])]
    · have refused : assembly.stage.takes? line = none := by
        rw [isOpen, Stage.takes?_session, if_neg detail]
      rw [List.dropWhile_cons_of_neg detail, read_refused assembly line rest refused, settled,
        read_idle assembly.told line rest assembly.told_stage]
      rfl

/-- The events that prose is told as. -/
def spoken (prose : List Line) : List Event := (Event.reasoning? prose).toList

/-- Where nothing is open and nobody waits, prose is told behind the events that
    are there, and what begins an item behind it is read as from the beginning. -/
theorem read_fresh (events : List Event) (prose rest : List Line)
    (ends : ∀ line, rest.head? = some line → (line.heading?).isSome = true) :
    ({ events, thinking := prose } : Assembly).read rest =
      (ofLines rest).map (events ++ spoken prose ++ ·) := by
  rw [read_flush _ rest rfl ends, ofLines_eq_read]
  apply read_continues
  left
  unfold flush spoken
  cases Event.reasoning? prose <;> simp [emit, behind]

/-- Details of a session that were cut off are seen, unless all of them are noise. They become
    prose, and this prose is told. -/
theorem read_cut_details_iff (events : List Event) (details rest : List Line)
    (labelled : ∀ detail ∈ details, detail.isDetail = true)
    (plain : ∀ line ∈ rest, line.opensBlock = false) :
    ({ events } : Assembly).read (details ++ rest) = ({ events } : Assembly).read rest ↔
      ∀ detail ∈ details, detail.isNoise = true := by
  obtain ⟨prose, items, rfl, inner, ends⟩ := Line.split_at_heading rest
  obtain ⟨others, told⟩ := ({} : Assembly).read_plain items rfl fun line member =>
    plain line (List.mem_append_right prose member)
  -- The prose before the next item is all that the details can change.
  have read (thinking : List Line) : ({ events, thinking } : Assembly).read (prose ++ items) =
      .ok (events ++ spoken (thinking ++ prose.filter (!·.isNoise)) ++ others) := by
    rw [read_prose_lines { events, thinking } prose items rfl fun line member =>
        ⟨inner line member, Or.inr (plain line (List.mem_append_left items member))⟩,
      read_fresh _ _ _ ends, ofLines_eq_read, told, Except.map]
  rw [read_prose_lines { events } details _ rfl fun detail member =>
    (detail.prose_of_detail (labelled detail member)).imp_right Or.inr]
  simp only [List.nil_append, read, Except.ok.injEq, List.append_cancel_right_eq,
    List.append_cancel_left_eq]
  cases loud : details.filter (!·.isNoise) with
  | nil =>
    simp only [List.nil_append, true_iff]
    intro detail member
    simpa using List.filter_eq_nil_iff.mp loud detail member
  | cons detail more =>
    have among : detail ∈ details.filter (!·.isNoise) := by simp [loud]
    obtain ⟨member, spokenOf⟩ := List.mem_filter.mp among
    have differs := Event.reasoning?_details_ne detail more (prose.filter (!·.isNoise))
      (labelled detail member)
    constructor
    · intro same
      have first := congrArg List.head? same
      simp only [spoken, Option.head?_toList] at first
      exact absurd first differs
    · intro silent
      rw [silent detail member] at spokenOf
      cases spokenOf

end

/-- A session is told behind the events that are there, and nobody waits then. -/
theorem told_session (assembly : Assembly) (provider model : Text) (tidy : assembly.Tidy)
    (isOpen : assembly.stage = .session provider model) :
    assembly.told = { events := assembly.events ++ [.ofSession provider model] } := by
  have silent : assembly.thinking = [] := tidy (by rw [isOpen]; rfl)
  simp only [told, isOpen, emit, silent]
  rfl

end Assembly

/-- Where noise is seen: below a session line and its details, if it is no detail
    itself and cuts off a further detail that is no noise. -/
structure CutsSession (before : List Line) (line : Line) (after : List Line) : Prop where
  below : ∃ provider model, BelowSession provider model before
  foreign : line.isDetail = false
  cut : ∃ detail ∈ after.takeWhile Line.isDetail, detail.isNoise = false

/-- Noise in a transcript without blocks changes no event, wherever it stands, unless
    it cuts off details of a session. Then it does. The noise may have the form of a
    parameter or of a detail, but neither begins an item nor opens a block. -/
theorem noise_is_transparent_unless_it_cuts_a_session [NestingLimits] (before : List Line)
    (line : Line) (after : List Line)
    (unopened : ∀ other ∈ before ++ after, other.opensBlock = false) (noise : line.isNoise = true)
    (inner : line.isStructural = false) (plain : line.opensBlock = false) :
    ∃ events, Assembly.ofLines (before ++ after) = .ok events ∧
      (Assembly.ofLines (before ++ line :: after) = .ok events ↔
        ¬CutsSession before line after) := by
  have plainBefore : ∀ other ∈ before, other.opensBlock = false := fun other member =>
    unopened other (by simp [member])
  have plainAfter : ∀ other ∈ after, other.opensBlock = false := fun other member =>
    unopened other (by simp [member])
  obtain ⟨state, fed, closed⟩ := ({} : Assembly).fold_plain before rfl plainBefore
  obtain ⟨events, told⟩ := state.read_plain after closed plainAfter
  have parted (lines : List Line) : Assembly.ofLines (before ++ lines) = state.read lines := by
    rw [Assembly.ofLines_eq_read, Assembly.read, List.foldlM_append, fed]
    rfl
  refine ⟨events, (parted after).trans told, ?_⟩
  rw [parted, ← told]
  by_cases belongs : ∀ provider model, state.stage = .session provider model →
      line.isDetail = true
  · have passed : state.read (line :: after) = state.read after := by
      rw [Assembly.read_cons, state.feed_noise line closed noise inner plain belongs]
      rfl
    have whole : ¬CutsSession before line after := by
      rintro ⟨⟨provider, model, below⟩, foreign, _⟩
      have isOpen :=
        (Assembly.fold_session_iff before state provider model plainBefore fed).mpr below
      rw [belongs provider model isOpen] at foreign
      cases foreign
    simp [passed, whole]
  · -- A session is open, and the line is none of its details.
    have cutOff : ∃ provider model, state.stage = .session provider model ∧
        line.isDetail = false := by
      simpa using belongs
    obtain ⟨provider, model, isOpen, foreign⟩ := cutOff
    have tidy : state.Tidy := Assembly.fold_tidy before {} state (fun _ => rfl) fed
    have below := (Assembly.fold_session_iff before state provider model plainBefore fed).mp isOpen
    have cut : state.read (line :: after) = state.told.read after := by
      have told := state.read_behind_session provider model (line :: after) isOpen
      rw [List.dropWhile_cons_of_neg (by simp [foreign])] at told
      exact told.trans (state.told.read_noise [line] after state.told_stage (by simpa using noise))
    have iff := Assembly.read_cut_details_iff (state.events ++ [.ofSession provider model])
      (after.takeWhile Line.isDetail) (after.dropWhile Line.isDetail)
      (fun detail member => List.mem_takeWhile_imp member)
      (fun other member => plainAfter other ((List.dropWhile_suffix _).mem member))
    rw [List.takeWhile_append_dropWhile, ← state.told_session provider model tidy isOpen] at iff
    rw [cut, state.read_behind_session provider model after isOpen, iff]
    constructor
    · rintro silent ⟨_, _, detail, member, loud⟩
      rw [silent detail member] at loud
      cases loud
    · intro whole detail member
      by_contra loud
      exact whole ⟨⟨provider, model, below⟩, foreign, detail, member, by simpa using loud⟩

namespace NoisySession

/-- A session line. -/
def opening : Line := "starting session | provider: openai model: gpt-4"

/-- A detail of the session. -/
def detail : Line := "    session id: 20260101_1"

end NoisySession

open NoisySession in
/-- A blank line between a session line and a detail of the session makes the detail
    reasoning. -/
theorem blank_line_cuts_session :
    (∀ line ∈ [opening, detail], line.opensBlock = false) ∧
      Line.isNoise "" = true ∧ Line.isStructural "" = false ∧ Line.opensBlock "" = false ∧
      (Assembly.ofLines [opening, detail]).toOption.map (List.map (·.kind)) =
        some [.sessionStart] ∧
      (Assembly.ofLines [opening, "", detail]).toOption.map (List.map (·.kind)) =
        some [.sessionStart, .agentThinking] := by
  decide +kernel

open NoisySession in
/-- A notice between the header of a call and its parameter is not seen, though it
    has the form of a parameter and the call stands behind a session. -/
theorem notice_is_not_seen :
    ∃ events, Assembly.ofLines
        [opening, detail, "─── shell | developer ───", "command: ls", "src"] = .ok events ∧
      Assembly.ofLines [opening, detail, "─── shell | developer ───",
        "path: All secrets loaded from cache", "command: ls", "src"] = .ok events := by
  obtain ⟨events, told, unchanged⟩ := noise_is_transparent_unless_it_cuts_a_session
    [opening, detail, "─── shell | developer ───"] "path: All secrets loaded from cache"
    ["command: ls", "src"] (by decide +kernel) (by decide +kernel) (by decide +kernel)
    (by decide +kernel)
  refine ⟨events, told, unchanged.mpr ?_⟩
  rintro ⟨_, _, cut⟩
  exact absurd cut (by decide +kernel)

end AgentRuns
