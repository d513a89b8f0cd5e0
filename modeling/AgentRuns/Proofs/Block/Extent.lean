import AgentRuns.Block.Basic
import Mathlib.Algebra.Ring.Int.Defs
import Mathlib.Data.List.Basic

/-!
# The extent of a block

A block is told by its lines alone: its depth is what they add up to. From its
opening line it takes the lines behind one after the other, as long as it goes on,
and what it leaves begins with a line that it refuses.

The end of a block can be told from the lines without reading them one by one. It
is the first place behind the opening where nothing is left, where the braces of
the lines before add up to nothing more, or where a tool header stands. A block
whose braces balance there ends there, whatever follows.
-/

namespace AgentRuns

namespace Block

/-- The block of given lines. -/
def of (lines : List Line) : Block := ⟨lines, (lines.map braceDelta).sum⟩

/-- The block with further lines. -/
def append (block : Block) (more : List Line) : Block :=
  ⟨block.lines ++ more, block.depth + (more.map braceDelta).sum⟩

/-- The block of an opening line is that of this one line. -/
theorem start_eq_of (opening : Line) : start opening = of [opening] := by
  simp [start, of]

/-- A block without further lines is the block. -/
@[simp] theorem append_nil (block : Block) : block.append [] = block := by
  simp [append]

/-- Lines can be added to a block in parts. The depths of the parts add up. -/
theorem append_append (block : Block) (first rest : List Line) :
    (block.append first).append rest = block.append (first ++ rest) := by
  simp [append, Int.add_assoc]

/-- One line more is a list of one line more. -/
theorem add_eq_append (block : Block) (line : Line) : block.add line = block.append [line] := by
  simp [add, append]

/-- A block of some lines with further ones is the block of all of them. -/
theorem append_of (lines more : List Line) : (of lines).append more = of (lines ++ more) := by
  simp [append, of]

/-- Whether the block takes each of the lines in turn. -/
def GoesOn (block : Block) (more : List Line) : Prop :=
  ∀ before line after, more = before ++ line :: after → (block.append before).takes line = true

/-- A block goes on through no lines. There is nothing to take. -/
theorem GoesOn.nil (block : Block) : block.GoesOn [] := by
  intro before line after split
  simp at split

/-- A block goes on through a line that it takes and through what it goes on through behind
    that line. -/
theorem GoesOn.cons {block : Block} {line : Line} {more : List Line}
    (takes : block.takes line = true) (goesOn : (block.add line).GoesOn more) :
    block.GoesOn (line :: more) := by
  intro before other after split
  cases before with
  | nil =>
    obtain ⟨rfl, _⟩ := List.cons.inj split
    rwa [append_nil]
  | cons first before =>
    obtain ⟨rfl, further⟩ := List.cons.inj split
    have others := goesOn before other after further
    rwa [add_eq_append, append_append, List.singleton_append] at others

/-- A block that goes on through lines takes the first of them. -/
theorem GoesOn.head {block : Block} {line : Line} {more : List Line}
    (goesOn : block.GoesOn (line :: more)) : block.takes line = true := by
  have first := goesOn [] line more rfl
  rwa [append_nil] at first

/-- A block that goes on through lines goes on through the others behind the first one. -/
theorem GoesOn.tail {block : Block} {line : Line} {more : List Line}
    (goesOn : block.GoesOn (line :: more)) : (block.add line).GoesOn more := by
  intro before other after split
  rw [add_eq_append, append_append, List.singleton_append]
  exact goesOn (line :: before) other after (congrArg (line :: ·) split)

/-- A block goes on through lines before each of which its braces are open, as long
    as none is a tool header. -/
theorem goesOn_of_open (block : Block) (more : List Line)
    (noHeader : ∀ line ∈ more, line.isToolHeader = false)
    (openBefore : ∀ count < more.length, 0 < (block.append (more.take count)).depth) :
    block.GoesOn more := by
  intro before line after split
  have isOpen := openBefore before.length (by simp [split])
  rw [split, List.take_left] at isOpen
  have plain := noHeader line (by simp [split])
  simp [takes, isOpen, plain]

/-- The lines that a block goes on through are taken. What is taken behind them is decided
    there. -/
theorem extend_of_goesOn (block : Block) (more rest : List Line) (goesOn : block.GoesOn more) :
    block.extend (more ++ rest) = (block.append more).extend rest := by
  induction more generalizing block with
  | nil => rw [List.nil_append, append_nil]
  | cons line more inductionHypothesis =>
    rw [List.cons_append, extend, if_pos goesOn.head, inductionHypothesis _ goesOn.tail,
      add_eq_append, append_append, List.singleton_append]

/-- A block that refuses the line behind it takes nothing further. This includes a block with
    no line behind it. -/
theorem extend_of_refused (block : Block) (rest : List Line)
    (refuses : ∀ line, rest.head? = some line → block.takes line = false) :
    block.extend rest = block := by
  cases rest with
  | nil => rfl
  | cons line rest =>
    have first := refuses line rfl
    simp [extend, first]

/-- A block whose braces balance takes no further line. The line is not looked at. -/
theorem takes_of_closed (block : Block) (closed : block.depth ≤ 0) (line : Line) :
    block.takes line = false := by
  simp [takes, Int.not_lt.mpr closed]

/-- A block takes the lines up to the first one that it refuses. So the lines behind an
    opening fall into two parts, and nothing of the second is taken. -/
theorem extend_split (block : Block) (rest : List Line) : ∃ more behind, rest = more ++ behind ∧
    block.extend rest = block.append more ∧ block.GoesOn more ∧
      ∀ line, behind.head? = some line → (block.append more).takes line = false := by
  induction rest generalizing block with
  | nil => exact ⟨[], [], rfl, by simp [extend], GoesOn.nil block, by simp⟩
  | cons line rest inductionHypothesis =>
    by_cases takes : block.takes line = true
    · obtain ⟨more, behind, rfl, extended, goesOn, refused⟩ := inductionHypothesis (block.add line)
      rw [add_eq_append, append_append, List.singleton_append] at refused
      refine ⟨line :: more, behind, rfl, ?_, GoesOn.cons takes goesOn, refused⟩
      rw [extend, if_pos takes, extended, add_eq_append, append_append, List.singleton_append]
    · refine ⟨[], line :: rest, rfl, ?_, GoesOn.nil block, ?_⟩
      · rw [extend, if_neg takes, append_nil]
      · intro other first
        cases first
        rw [append_nil]
        exact Bool.eq_false_iff.mpr takes

/-- Where the lines of a block stand whose braces balance behind its last line
    and not before, exactly these lines are the block, whatever stands around
    them. -/
theorem at?_of_closed (before : List Line) (opening : Line) (more after : List Line)
    (goesOn : (of [opening]).GoesOn more) (closed : (of (opening :: more)).depth ≤ 0) :
    at? (before ++ (opening :: more ++ after)) before.length = some (of (opening :: more)) := by
  have whole := extend_of_goesOn (of [opening]) more after goesOn
  rw [append_of, List.singleton_append, extend_of_refused _ after
    fun line _ => takes_of_closed _ closed line, ← start_eq_of] at whole
  rw [at?, List.drop_left]
  exact congrArg some whole

/-- The lines from one place up to another. -/
def stretch (lines : List Line) (start stop : Nat) : List Line := (lines.take stop).drop start

/-- Whether a block that is opened at one place cannot go on at another: nothing is
    left there, the braces up to there balance, or a tool header stands there. -/
def Stops (lines : List Line) (start place : Nat) : Prop :=
  place = lines.length ∨ ((stretch lines start place).map braceDelta).sum ≤ 0 ∨
    lines[place]?.any Line.isToolHeader = true

instance (lines : List Line) (start place : Nat) : Decidable (Stops lines start place) :=
  inferInstanceAs (Decidable (_ ∨ _ ∨ _))

/-- What is known of the block that is opened at one place and ends at another. -/
structure Spans (lines : List Line) (start stop : Nat) (block : Block) : Prop where
  found : at? lines start = some block
  ends : start + block.lines.length = stop
  lines_eq : block.lines = stretch lines start stop
  text_eq : block.text = Text.unlines (stretch lines start stop)
  depth_eq : block.depth = ((stretch lines start stop).map braceDelta).sum
  begins : start < stop
  within : stop ≤ lines.length
  stops : Stops lines start stop
  first : ∀ place, start < place → place < stop → ¬Stops lines start place
  noHeader : ∀ place line, start < place → place < stop → lines[place]? = some line →
    line.isToolHeader = false
  exact : block.depth ≤ 0 → ∀ others, at? (lines.take stop ++ others) start = some block

/-- Behind an opening line, a stretch is the opening and so many of the lines
    behind it. -/
theorem stretch_behind (before : List Line) (opening : Line) (rest : List Line) (count : Nat) :
    stretch (before ++ opening :: rest) before.length (before.length + 1 + count) =
      opening :: rest.take count := by
  rw [stretch, Nat.add_assoc, List.take_length_add_append, List.drop_left, Nat.add_comm 1 count,
    List.take_succ_cons]

/-- The places behind an opening are those of the lines behind it, counted from there. -/
theorem getElem?_behind (before : List Line) (opening : Line) (rest : List Line) (count : Nat) :
    (before ++ opening :: rest)[before.length + 1 + count]? = rest[count]? := by
  rw [List.getElem?_append_right (by omega), show before.length + 1 + count - before.length =
    count + 1 by omega, List.getElem?_cons_succ]

/-- While the block goes on it does not have to stop. No place inside the lines that it takes
    is one at which it stops. -/
theorem not_stops_of_goesOn (before : List Line) (opening : Line) (more behind : List Line)
    (goesOn : (of [opening]).GoesOn more) (count : Nat) (inside : count < more.length) :
    ¬Stops (before ++ opening :: (more ++ behind)) before.length (before.length + 1 + count) := by
  have takes := goesOn (more.take count) more[count] (more.drop (count + 1)) (by simp)
  rw [append_of, List.singleton_append] at takes
  simp only [Block.takes, Bool.and_eq_true, decide_eq_true_eq, Bool.not_eq_true'] at takes
  obtain ⟨isOpen, plain⟩ := takes
  rintro (atEnd | balanced | header)
  · simp only [List.length_append, List.length_cons] at atEnd
    omega
  · rw [stretch_behind, List.take_append_of_le_length (Nat.le_of_lt inside)] at balanced
    exact Int.not_lt.mpr balanced isOpen
  · rw [getElem?_behind, List.getElem?_append_left inside, List.getElem?_eq_getElem inside,
      Option.any_some, plain] at header
    cases header

/-- Where the block goes on no further it has to stop: at a balance, at a tool header, or at
    the end of the lines. -/
theorem stops_of_refused (before : List Line) (opening : Line) (more behind : List Line)
    (refused : ∀ line, behind.head? = some line → (of (opening :: more)).takes line = false) :
    Stops (before ++ opening :: (more ++ behind)) before.length
      (before.length + 1 + more.length) := by
  cases behind with
  | nil =>
    left
    simp only [List.append_nil, List.length_append, List.length_cons]
    omega
  | cons line behind =>
    right
    have refuses := refused line rfl
    simp only [takes, Bool.and_eq_false_iff, decide_eq_false_iff_not, Bool.not_eq_false',
      Int.not_lt] at refuses
    rcases refuses with balanced | header
    · left
      rwa [stretch_behind, List.take_left]
    · right
      rw [getElem?_behind]
      simpa using header

/-- A block has one end: it stops there and nowhere before. So the first place at which it has
    to stop is the end that its reading comes to. -/
theorem Spans.stop_eq {lines : List Line} {start stop : Nat} {block : Block}
    (spans : Spans lines start stop block) (place : Nat) (begins : start < place)
    (stops : Stops lines start place)
    (first : ∀ earlier < place, start < earlier → ¬Stops lines start earlier) : stop = place := by
  rcases Nat.lt_trichotomy stop place with before | same | behind
  · exact absurd spans.stops (first stop before spans.begins)
  · exact same
  · exact absurd stops (spans.first place begins behind)

/-- A block that had to stop refuses the line that stands there. It may stand at the end,
    where there is no line. -/
theorem Spans.refuses {lines : List Line} {start stop : Nat} {block : Block}
    (spans : Spans lines start stop block) (line : Line) (here : lines[stop]? = some line) :
    block.takes line = false := by
  rcases spans.stops with atEnd | balanced | header
  · rw [atEnd, List.getElem?_eq_none (Nat.le_refl _)] at here
    cases here
  · apply takes_of_closed
    rw [spans.depth_eq]
    exact balanced
  · rw [here, Option.any_some] at header
    simp [takes, header]

/-- A block goes on through a stretch of lines behind its opening, up to the first
    place where it has to stop. -/
theorem exists_spans (lines : List Line) (start : Nat) (inside : start < lines.length) :
    ∃ stop, (Block.start lines[start]).GoesOn (stretch lines (start + 1) stop) ∧
      Spans lines start stop
        ((Block.start lines[start]).append (stretch lines (start + 1) stop)) := by
  obtain ⟨before, opening, rest, rfl, rfl⟩ :
      ∃ before opening rest, lines = before ++ opening :: rest ∧ start = before.length :=
    ⟨lines.take start, lines[start], lines.drop (start + 1), by simp,
      (List.length_take_of_le (Nat.le_of_lt inside)).symm⟩
  obtain ⟨more, behind, rfl, extended, goesOn, refused⟩ := extend_split (of [opening]) rest
  rw [append_of, List.singleton_append] at extended refused
  have whole : stretch (before ++ opening :: (more ++ behind)) before.length
      (before.length + 1 + more.length) = opening :: more := by
    rw [stretch_behind, List.take_left]
  have taken : (before ++ opening :: (more ++ behind)).take (before.length + 1 + more.length) =
      before ++ opening :: more := by
    rw [Nat.add_assoc, List.take_length_add_append, Nat.add_comm 1, List.take_succ_cons,
      List.take_left]
  have inner : stretch (before ++ opening :: (more ++ behind)) (before.length + 1)
      (before.length + 1 + more.length) = more := by
    rw [stretch, taken, ← List.drop_drop, List.drop_left, List.drop_one, List.tail_cons]
  have same : (Block.start opening).append more = of (opening :: more) := by
    rw [start_eq_of, append_of, List.singleton_append]
  have first (place : Nat) (above : before.length < place)
      (below : place < before.length + 1 + more.length) :
      ¬Stops (before ++ opening :: (more ++ behind)) before.length place := by
    obtain ⟨count, rfl⟩ : ∃ count, place = before.length + 1 + count :=
      ⟨place - (before.length + 1), by omega⟩
    exact not_stops_of_goesOn before opening more behind goesOn count (by omega)
  refine ⟨before.length + 1 + more.length, ?_⟩
  rw [inner, List.getElem_append_right (Nat.le_refl _)]
  simp only [Nat.sub_self, List.getElem_cons_zero, same]
  refine ⟨start_eq_of opening ▸ goesOn, ?_⟩
  constructor
  case found =>
    rw [at?, List.drop_left]
    exact congrArg some ((start_eq_of opening).symm ▸ extended)
  case ends =>
    simp only [of, List.length_cons]
    omega
  case lines_eq => rw [whole, of]
  case text_eq => rw [whole, text, of]
  case depth_eq => rw [whole, of]
  case begins => omega
  case within =>
    simp only [List.length_append, List.length_cons]
    omega
  case stops => exact stops_of_refused before opening more behind refused
  case first => exact first
  case noHeader =>
    intro place line above below here
    rw [Bool.eq_false_iff]
    intro header
    exact first place above below (Or.inr (Or.inr (by simp [here, header])))
  case exact =>
    intro closed others
    rw [taken, List.append_assoc]
    exact at?_of_closed before opening more others goesOn closed

end Block

end AgentRuns
