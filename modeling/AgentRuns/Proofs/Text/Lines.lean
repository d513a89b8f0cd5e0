import AgentRuns.Text.Blank
import Mathlib.Data.List.Basic
import Mathlib.Data.List.DropRight
import Mathlib.Data.List.TakeWhile

/-!
# Lines of a text

Lines are joined and split piece by piece: a line feed between two texts is one
between their lines. Parts joined by anything else go the same way.

Stripping a text of lines that are not blank reaches into its first line from
the left and into its last line from the right, and into no other line.
-/

namespace AgentRuns.Text

/-- Parts behind others stand behind a separator. There must be parts on both sides, or there
    is nothing to separate. -/
theorem join_append (between : Text) (parts more : List Text) (somePart : parts ≠ [])
    (someMore : more ≠ []) :
    join between (parts ++ more) = join between parts ++ (between ++ join between more) := by
  induction parts with
  | nil => exact absurd rfl somePart
  | cons part parts inductionHypothesis =>
    cases parts with
    | nil =>
      obtain ⟨next, more, rfl⟩ := List.exists_cons_of_ne_nil someMore
      simp [join, List.intercalate_cons_cons]
    | cons next parts =>
      have others := inductionHypothesis (List.cons_ne_nil next parts)
      simp only [join, List.cons_append, List.intercalate_cons_cons,
        List.append_assoc] at others ⊢
      rw [others]

/-- Lines behind others stand behind a line feed. It is the law for parts, with a line feed as
    the separator. -/
theorem unlines_append (lines more : List Line) (someLine : lines ≠ []) (someMore : more ≠ []) :
    unlines (lines ++ more) = unlines lines ++ ("\n" ++ unlines more) :=
  join_append "\n" lines more someLine someMore

/-- The lines of two texts with a line feed between them are those of the one and then those
    of the other. A line feed at an end opens an empty line. -/
theorem lines_feed (first rest : Text) :
    lines (first ++ ("\n" ++ rest)) = lines first ++ lines rest :=
  List.splitOn_append_cons_self first rest

/-- A text without a line feed is one line, also if it is empty. -/
theorem lines_unbroken (text : Text) (unbroken : CodePoint.char '\n' ∉ text) :
    lines text = [text] := by
  have whole := lines_unlines [text] (List.cons_ne_nil text []) (by simpa using unbroken)
  rwa [unlines, List.intercalate_singleton] at whole

/-- What a part of a split list holds is of the list and is nothing at which it is
    split. -/
theorem of_mem_splitOnP {α : Type} (cut : α → Bool) (given : List α) :
    ∀ part ∈ given.splitOnP cut, ∀ item ∈ part, item ∈ given ∧ cut item = false := by
  induction given with
  | nil => simp
  | cons first rest inductionHypothesis =>
    have behindFirst (part : List α) (later : part ∈ rest.splitOnP cut) :
        ∀ item ∈ part, item ∈ first :: rest ∧ cut item = false := fun item inside =>
      have ⟨member, kept⟩ := inductionHypothesis part later item inside
      ⟨List.mem_cons_of_mem first member, kept⟩
    rw [List.splitOnP_cons_eq_if_modifyHead]
    split
    · intro part member
      rcases List.mem_cons.mp member with rfl | later
      · simp
      · exact behindFirst part later
    · rename_i kept
      obtain ⟨head, others, behind⟩ := List.exists_cons_of_ne_nil (List.splitOnP_ne_nil cut rest)
      rw [behind] at behindFirst ⊢
      intro part member
      rcases List.mem_cons.mp member with rfl | later
      · intro item inside
        rcases List.mem_cons.mp inside with rfl | further
        · exact ⟨List.mem_cons_self, Bool.eq_false_iff.mpr kept⟩
        · exact behindFirst head List.mem_cons_self item further
      · exact behindFirst part (List.mem_cons_of_mem head later)

/-- A line of a text holds characters of the text, and no line feed. Other line breaks are
    characters like all others here. -/
theorem of_mem_lines (text : Text) :
    ∀ line ∈ lines text, ∀ c ∈ line, c ∈ text ∧ c ≠ .char '\n' := by
  intro line member c inside
  rw [lines, List.splitOn_eq_splitOnP] at member
  have ⟨given, kept⟩ := of_mem_splitOnP _ text line member c inside
  exact ⟨given, by simpa using kept⟩

/-- No line of a text holds a line feed. So its lines can be put together and taken apart
    again. -/
theorem unbroken_of_mem_lines (text : Text) :
    ∀ line ∈ lines text, CodePoint.char '\n' ∉ line :=
  fun line member feed => (of_mem_lines text line member _ feed).2 rfl

/-- The lines of a text and unbroken lines below it. The text may hold line feeds of its own,
    and it keeps them. -/
theorem lines_unlines_cons (first : Text) (below : List Line)
    (unbroken : ∀ line ∈ below, CodePoint.char '\n' ∉ line) :
    lines (unlines (first :: below)) = lines first ++ below := by
  cases below with
  | nil => simp [unlines]
  | cons next others =>
    have split := unlines_append [first] (next :: others) (by simp) (by simp)
    have single : unlines [first] = first := by simp [unlines]
    rw [List.singleton_append, single] at split
    rw [split, lines_feed, lines_unlines _ (List.cons_ne_nil next others) unbroken]

/-- The lines of a text behind a part without a line feed: the part stands in the
    first of them. -/
theorem lines_behind (part rest : Text) (unbroken : CodePoint.char '\n' ∉ part) :
    lines (part ++ rest) = (lines rest).modifyHead (part ++ ·) := by
  induction part with
  | nil =>
    rw [List.nil_append]
    cases lines rest <;> rfl
  | cons c part inductionHypothesis =>
    have notFeed : c ≠ .char '\n' := fun same => unbroken (same ▸ List.mem_cons_self)
    have later := inductionHypothesis fun inside => unbroken (List.mem_cons_of_mem c inside)
    rw [lines] at later
    rw [List.cons_append, lines, List.splitOn_cons_eq_if_modifyHead, if_neg (by simp [notFeed]),
      later, List.modifyHead_modifyHead]
    rfl

/-- A text has one line more than it has line feeds. So it has always one. -/
theorem length_lines (text : Text) :
    (lines text).length = text.count (.char '\n') + 1 := by
  induction text with
  | nil => rfl
  | cons c rest inductionHypothesis =>
    rw [lines] at inductionHypothesis ⊢
    rw [List.splitOn_cons_eq_if_modifyHead, List.count_cons, ← Nat.add_right_comm,
      ← inductionHypothesis]
    split <;> simp

/-- Nothing is left behind the blanks of a text exactly if it is blank. -/
theorem stripStart_eq_nil (text : Text) : stripStart text = [] ↔ allBlank text = true := by
  rw [stripStart, List.dropWhile_eq_nil_iff, allBlank, List.all_eq_true]

/-- Stripping the start stops inside a part that is not blank. What stands behind the part is
    not touched. -/
theorem stripStart_append (part rest : Text) (notBlank : allBlank part = false) :
    stripStart (part ++ rest) = stripStart part ++ rest := by
  have left : stripStart part ≠ [] := by
    rw [ne_eq, stripStart_eq_nil, notBlank]
    exact Bool.false_ne_true
  rw [stripStart, List.dropWhile_append, if_neg]
  · rfl
  · simpa [stripStart] using left

/-- Stripping the end stops inside a part that is not blank. What stands before the part is
    not touched. -/
theorem stripEnd_append (before part : Text) (notBlank : allBlank part = false) :
    stripEnd (before ++ part) = before ++ stripEnd part := by
  have reversed : allBlank part.reverse = false := by rwa [allBlank, List.all_reverse]
  have start := stripStart_append part.reverse before.reverse reversed
  unfold stripStart at start
  rw [stripEnd, List.reverse_append, start, List.reverse_append, List.reverse_reverse]
  rfl

/-- What is not blank is not blank without the blanks before it. -/
theorem allBlank_stripStart (text : Text) (notBlank : allBlank text = false) :
    allBlank (stripStart text) = false := by
  rw [Bool.eq_false_iff]
  intro blank
  have notEmpty : stripStart text ≠ [] := by
    rw [ne_eq, stripStart_eq_nil, notBlank]
    exact Bool.false_ne_true
  have first := List.dropWhile_get_zero_not isBlank text (List.length_pos_of_ne_nil notEmpty)
  exact first (List.all_eq_true.mp blank _ (List.get_mem _ _))

/-- What is not blank is not blank without the blanks behind it. -/
theorem allBlank_stripEnd (text : Text) (notBlank : allBlank text = false) :
    allBlank (stripEnd text) = false := by
  have reversed : allBlank text.reverse = false := by rwa [allBlank, List.all_reverse]
  have start := allBlank_stripStart text.reverse reversed
  rwa [stripEnd, allBlank, List.all_reverse]

/-- What is left when the end is stripped stands at the start of the text. -/
theorem stripEnd_initial (text : Text) : stripEnd text <+: text := by
  have behind := List.reverse_prefix.mpr (List.dropWhile_suffix isBlank (l := text.reverse))
  rwa [List.reverse_reverse] at behind

/-- What begins with a character that is not blank still does behind which blanks
    are stripped. -/
theorem stripEnd_cons (c : CodePoint) (rest : Text) (visible : isBlank c = false) :
    ∃ kept, stripEnd (c :: rest) = c :: kept := by
  have notBlank : allBlank (c :: rest) = false := by simp [allBlank, visible]
  obtain ⟨behind, whole⟩ := stripEnd_initial (c :: rest)
  cases kept : stripEnd (c :: rest) with
  | nil =>
    have stays := allBlank_stripEnd (c :: rest) notBlank
    rw [kept] at stays
    cases stays
  | cons first others =>
    rw [kept] at whole
    exact ⟨others, by rw [(List.cons.inj whole).1]⟩

/-- A text of some characters, neither the first nor the last of which is blank. -/
structure Tight (text : Text) : Prop where
  someText : text ≠ []
  start : ∀ c ∈ text.head?, isBlank c = false
  ending : ∀ c ∈ text.getLast?, isBlank c = false

namespace Tight

variable {text : Text} (tight : Tight text)

include tight

/-- Nothing is stripped at the start of a tight text. Its first character is not blank. -/
theorem stripStart_eq : stripStart text = text := by
  obtain ⟨c, rest, rfl⟩ := List.exists_cons_of_ne_nil tight.someText
  have visible : isBlank c = false := tight.start c rfl
  simp [stripStart, visible]

/-- A tight text is tight from the other end too. So what is said of its start holds of its
    end. -/
theorem reverse : Tight text.reverse where
  someText := by simpa using tight.someText
  start := by
    rw [List.head?_reverse]
    exact tight.ending
  ending := by
    rw [List.getLast?_reverse]
    exact tight.start

/-- A tight text is not blank, since it has a first character that is not. -/
theorem notBlank : allBlank text = false := by
  rw [Bool.eq_false_iff, ne_eq, ← stripStart_eq_nil, tight.stripStart_eq]
  exact tight.someText

end Tight

/-- A text without blanks is tight, if there is a text at all. -/
theorem tight_of_visible (text : Text) (someText : text ≠ [])
    (visible : ∀ c ∈ text, isBlank c = false) : Tight text where
  someText := someText
  start := fun c first => visible c (List.mem_of_mem_head? first)
  ending := fun c last => visible c (List.mem_of_getLast? last)

/-- A tight text with a visible character behind more text is tight. Between them there may be
    blanks, also line feeds. -/
theorem Tight.extend {text : Text} (tight : Tight text) (more : Text) (last : CodePoint)
    (ends : more.getLast? = some last) (visible : isBlank last = false) : Tight (text ++ more) where
  someText := by simp [tight.someText]
  start := by
    rw [List.head?_append_of_ne_nil _ tight.someText]
    exact tight.start
  ending := by
    have someMore : more ≠ [] := by
      rintro rfl
      cases ends
    rw [List.getLast?_append_of_ne_nil _ someMore, ends]
    intro c same
    cases same
    exact visible

/-- What is left of a text that is not blank is tight. Both its ends are visible then. -/
theorem tight_strip (text : Text) (notBlank : allBlank text = false) : Tight (strip text) := by
  have left := allBlank_stripStart text notBlank
  have visible (given : Text) : ∀ c ∈ (given.dropWhile isBlank).head?, isBlank c = false := by
    intro c first
    have stopped := List.head?_dropWhile_not isBlank given
    rwa [first] at stopped
  constructor
  case someText =>
    intro nothing
    have stays := allBlank_stripEnd _ left
    rw [← strip, nothing] at stays
    cases stays
  case start =>
    cases started : stripStart text with
    | nil =>
      rw [started] at left
      cases left
    | cons c rest =>
      have seen : isBlank c = false := visible text c (by rw [← stripStart, started]; rfl)
      obtain ⟨kept, whole⟩ := stripEnd_cons c rest seen
      intro other first
      rw [strip, started, whole] at first
      cases first
      exact seen
  case ending =>
    rw [strip, stripEnd, List.getLast?_reverse]
    exact visible _

/-- Nothing is left of a text exactly if it is blank. -/
theorem strip_eq_nil (text : Text) : strip text = [] ↔ allBlank text = true := by
  constructor
  · intro nothing
    by_contra notBlank
    exact (tight_strip text (Bool.eq_false_iff.mpr notBlank)).someText nothing
  · intro blank
    rw [strip, (stripStart_eq_nil text).mpr blank]
    rfl

/-- Lines of which something is left are some lines. No lines at all are put together to an
    empty text. -/
theorem ne_nil_of_strip_unlines (given : List Line) (someText : strip (unlines given) ≠ []) :
    given ≠ [] := by
  rintro rfl
  exact someText rfl

/-- Blanks are stripped at the start before a tight part and not in it. What stands before the
    part need not be blank. -/
theorem stripStart_around (before part after : Text) (tight : Tight part) :
    stripStart (before ++ (part ++ after)) = stripStart before ++ (part ++ after) := by
  by_cases blank : allBlank before = true
  · have gone : stripStart (before ++ (part ++ after)) = stripStart (part ++ after) :=
      List.dropWhile_append_of_pos (List.all_eq_true.mp blank)
    rw [gone, stripStart_append part after tight.notBlank, tight.stripStart_eq,
      (stripStart_eq_nil before).mpr blank, List.nil_append]
  · exact stripStart_append before _ (Bool.eq_false_iff.mpr blank)

/-- Blanks are stripped at the end behind a tight part and not in it. What stands behind the
    part need not be blank. -/
theorem stripEnd_around (before part after : Text) (tight : Tight part) :
    stripEnd (before ++ (part ++ after)) = before ++ (part ++ stripEnd after) := by
  have turned := stripStart_around after.reverse part.reverse before.reverse tight.reverse
  calc stripEnd (before ++ (part ++ after))
      = (stripStart (after.reverse ++ (part.reverse ++ before.reverse))).reverse := by
        simp [stripEnd, stripStart]
    _ = before ++ (part ++ stripEnd after) := by
        rw [turned]
        simp [stripEnd, stripStart]

/-- Stripping leaves a tight part whole, and what stands around it is stripped at
    the outer ends. -/
theorem strip_around (before part after : Text) (tight : Tight part) :
    strip (before ++ (part ++ after)) = stripStart before ++ (part ++ stripEnd after) := by
  rw [strip, stripStart_around before part after tight, stripEnd_around _ part after tight]

/-- Of a tight text nothing is stripped. Blanks inside it stay. -/
theorem strip_tight (text : Text) (tight : Tight text) : strip text = text := by
  simpa [stripStart, stripEnd] using strip_around [] text [] tight

/-- Blanks at the start are stripped at once. There is none left to strip again. -/
theorem stripStart_stripStart (text : Text) : stripStart (stripStart text) = stripStart text :=
  List.dropWhile_idempotent isBlank text

/-- What was stripped at the start may be stripped as if it had not been. -/
theorem strip_stripStart (text : Text) : strip (stripStart text) = strip text := by
  rw [strip, stripStart_stripStart, strip]

/-- What was stripped at the end may be stripped as if it had not been. -/
theorem strip_stripEnd (text : Text) : strip (stripEnd text) = strip text := by
  cases blank : allBlank text with
  | true =>
    have nothing : stripEnd text = [] :=
      List.rdropWhile_eq_nil_iff.mpr (List.all_eq_true.mp blank)
    rw [nothing, (strip_eq_nil text).mpr blank]
    rfl
  | false =>
    have split : text.takeWhile isBlank ++ stripStart text = text :=
      List.takeWhile_append_dropWhile
    have ended : stripEnd text = text.takeWhile isBlank ++ (strip text ++ []) := by
      have inner := stripEnd_append (text.takeWhile isBlank) _ (allBlank_stripStart text blank)
      rwa [split, ← strip, ← List.append_nil (strip text)] at inner
    have before : stripStart (text.takeWhile isBlank) = [] :=
      (stripStart_eq_nil _).mpr (List.all_eq_true.mpr fun c => List.mem_takeWhile_imp)
    rw [ended, strip_around _ _ _ (tight_strip text blank), before, List.nil_append]
    exact List.append_nil _

/-- What is stripped behind an inner part that is not blank is shorter than what
    is stripped of the whole. -/
theorem length_strip_lt (before after : Text) (notBlank : allBlank before = false)
    (notBlankAfter : allBlank after = false) :
    (strip after).length < (strip (before ++ ("\n" ++ after))).length := by
  have whole : strip (before ++ ("\n" ++ after)) =
      stripStart before ++ ("\n" ++ stripEnd after) := by
    rw [strip, stripStart_append before _ notBlank, ← List.append_assoc,
      stripEnd_append _ after notBlankAfter, List.append_assoc]
  obtain ⟨blanks, split⟩ := List.dropWhile_suffix isBlank (l := after)
  have inner : stripEnd after = blanks ++ strip after := by
    have kept := stripEnd_append blanks _ (allBlank_stripStart after notBlankAfter)
    rwa [stripStart, split] at kept
  rw [whole, inner]
  simp only [List.length_append]
  have feed : ("\n" : Text).length = 1 := rfl
  omega

/-- Lines are stripped at the start in their first line. It is asked that this line is not
    blank, or stripping would go on below it. -/
theorem stripStart_unlines (first : Line) (rest : List Line) (notBlank : allBlank first = false) :
    stripStart (unlines (first :: rest)) = unlines (stripStart first :: rest) := by
  cases rest with
  | nil => simp [unlines]
  | cons next rest =>
    have split (line : Line) := unlines_append [line] (next :: rest) (by simp) (by simp)
    have single (line : Line) : unlines [line] = line := by simp [unlines]
    simp only [List.singleton_append, single] at split
    rw [split, split, stripStart_append first _ notBlank]

/-- Lines are stripped at the end in their last line. It is asked that this line is not blank,
    or stripping would go on above it. -/
theorem stripEnd_unlines (front : List Line) (last : Line) (notBlank : allBlank last = false) :
    stripEnd (unlines (front ++ [last])) = unlines (front ++ [stripEnd last]) := by
  cases front with
  | nil => simp [unlines]
  | cons first front =>
    have split (line : Line) := unlines_append (first :: front) [line] (by simp) (by simp)
    have single (line : Line) : unlines [line] = line := by simp [unlines]
    simp only [single] at split
    rw [split, split, ← List.append_assoc, stripEnd_append _ last notBlank, List.append_assoc]

/-- The lines of a stripped text, if none of its lines was blank: the first one
    is stripped at its start, and the last one of these at its end. -/
theorem lines_strip (first : Line) (rest : List Line)
    (unbroken : ∀ line ∈ first :: rest, CodePoint.char '\n' ∉ line)
    (notBlank : ∀ line ∈ first :: rest, allBlank line = false) :
    ∃ front last, stripStart first :: rest = front ++ [last] ∧
      lines (strip (unlines (first :: rest))) = front ++ [stripEnd last] := by
  have firstNotBlank := notBlank first List.mem_cons_self
  have started : ∀ cell ∈ stripStart first :: rest,
      allBlank cell = false ∧ CodePoint.char '\n' ∉ cell := by
    intro cell member
    rcases List.mem_cons.mp member with rfl | later
    · refine ⟨allBlank_stripStart first firstNotBlank, fun feed => ?_⟩
      exact unbroken first List.mem_cons_self ((List.dropWhile_suffix isBlank).mem feed)
    · exact ⟨notBlank cell (List.mem_cons_of_mem first later),
        unbroken cell (List.mem_cons_of_mem first later)⟩
  -- The last line may be the first one, which was stripped at its start already.
  obtain ⟨front, last, split⟩ : ∃ front last, stripStart first :: rest = front ++ [last] :=
    ⟨_, _, (List.dropLast_append_getLast (List.cons_ne_nil _ _)).symm⟩
  refine ⟨front, last, split, ?_⟩
  rw [strip, stripStart_unlines first rest firstNotBlank, split,
    stripEnd_unlines front last (started last (by simp [split])).1]
  apply lines_unlines
  · simp
  · intro cell member
    rcases List.mem_append.mp member with before | behind
    · exact (started cell (by simp [split, before])).2
    · rw [List.mem_singleton.mp behind]
      intro feed
      exact (started last (by simp [split])).2 ((stripEnd_initial last).mem feed)

/-- Nothing but blanks at the ends of lines is stripped, if no line was blank. So stripping
    the whole and stripping each line lead to the same lines. -/
theorem map_strip_lines_strip (given : List Line) (someLine : given ≠ [])
    (unbroken : ∀ line ∈ given, CodePoint.char '\n' ∉ line)
    (notBlank : ∀ line ∈ given, allBlank line = false) :
    (lines (strip (unlines given))).map strip = given.map strip := by
  obtain ⟨first, rest, rfl⟩ := List.exists_cons_of_ne_nil someLine
  obtain ⟨front, last, split, whole⟩ := lines_strip first rest unbroken notBlank
  calc (lines (strip (unlines (first :: rest)))).map strip
      = (front ++ [last]).map strip := by simp [whole, strip_stripEnd]
    _ = (first :: rest).map strip := by simp [← split, strip_stripStart]

/-- A text with a line that is not blank is not blank, whatever stands below the line. -/
theorem allBlank_unlines (first : Line) (rest : List Line) (notBlank : allBlank first = false) :
    allBlank (unlines (first :: rest)) = false := by
  cases rest with
  | nil => simpa [unlines] using notBlank
  | cons next rest =>
    have split := unlines_append [first] (next :: rest) (by simp) (by simp)
    have single : unlines [first] = first := by simp [unlines]
    rw [List.singleton_append, single] at split
    rw [allBlank] at notBlank
    rw [split, allBlank, List.all_append, notBlank, Bool.false_and]

/-- A line of a stripped text, if none of its lines was blank. It is one of the
    lines that were given, save for blanks behind it, and for blanks before it if
    it is the first line. -/
theorem line_of_strip (given : List Line) (someLine : given ≠ [])
    (unbroken : ∀ line ∈ given, CodePoint.char '\n' ∉ line)
    (notBlank : ∀ line ∈ given, allBlank line = false) (place : Nat) (line : Line)
    (shown : (lines (strip (unlines given)))[place]? = some line) :
    ∃ raw ∈ given, line = raw ∨ line = stripEnd raw ∨
      place = 0 ∧ (line = stripStart raw ∨ line = strip raw) := by
  obtain ⟨first, rest, rfl⟩ := List.exists_cons_of_ne_nil someLine
  obtain ⟨front, last, split, whole⟩ := lines_strip first rest unbroken notBlank
  obtain ⟨cell, stands, stripped⟩ : ∃ cell, (stripStart first :: rest)[place]? = some cell ∧
      (line = cell ∨ line = stripEnd cell) := by
    rw [whole] at shown
    rw [split]
    rcases Nat.lt_trichotomy place front.length with before | here | beyond
    · rw [List.getElem?_append_left before] at shown ⊢
      exact ⟨line, shown, Or.inl rfl⟩
    · subst here
      rw [List.getElem?_concat_length] at shown ⊢
      exact ⟨last, rfl, Or.inr (Option.some.inj shown).symm⟩
    · rw [List.getElem?_eq_none (by simp; omega)] at shown
      cases shown
  cases place with
  | zero =>
    cases stands
    exact ⟨first, List.mem_cons_self, Or.inr (Or.inr ⟨rfl, stripped⟩)⟩
  | succ place =>
    have member : cell ∈ rest := List.mem_of_getElem? stands
    refine ⟨cell, List.mem_cons_of_mem first member, ?_⟩
    rcases stripped with same | ended
    · exact Or.inl same
    · exact Or.inr (Or.inl ended)

end AgentRuns.Text
