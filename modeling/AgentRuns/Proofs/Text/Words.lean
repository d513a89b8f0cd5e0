import AgentRuns.Proofs.Text.Lines
import Mathlib.Data.List.Chain

/-!
# Words a space apart

The words of a text, joined again with a space between neighbours, hold no other
blank and never two in a row. A text like this stays one when it is cut off and
when visible characters are put behind it, and it is a single line whatever breaks
lines, since everything that does is blank.
-/

namespace AgentRuns.Text

/-- A text in which every run of blanks is a single space. -/
structure Compact (text : Text) : Prop where
  spaces : ∀ c ∈ text, isBlank c = true → c = .char ' '
  single : text.IsChain fun c next => isBlank c = false ∨ isBlank next = false

/-- What holds no blank is compact. There is no run of blanks to be a single space. -/
theorem compact_of_visible (text : Text) (visible : ∀ c ∈ text, isBlank c = false) :
    Compact text where
  spaces := by
    intro c member blank
    rw [visible c member] at blank
    cases blank
  single := by
    induction text with
    | nil => exact .nil
    | cons c rest inductionHypothesis =>
      refine List.isChain_cons.mpr ⟨fun next _ => Or.inl (visible c List.mem_cons_self), ?_⟩
      exact inductionHypothesis fun other member => visible other (List.mem_cons_of_mem c member)

namespace Compact

/-- Two compact texts, unless a blank meets a blank where they are joined. The two characters
    that meet are all that has to be looked at. -/
theorem append {before behind : Text} (first : Compact before) (second : Compact behind)
    (meet : ∀ c ∈ before.getLast?, ∀ next ∈ behind.head?,
      isBlank c = false ∨ isBlank next = false) : Compact (before ++ behind) where
  spaces := by
    intro c member
    rcases List.mem_append.mp member with left | right
    · exact first.spaces c left
    · exact second.spaces c right
  single := first.single.append second.single meet

/-- Cutting a compact text off and marking the cut keeps it compact. The cut may leave a space
    at the end, and the first point is no blank. -/
theorem abridge {text : Text} (compact : Compact text) (limit : Nat) :
    Compact (abridge limit text) := by
  unfold Text.abridge
  split
  · exact compact
  · have begun : Compact (text.take limit) :=
      ⟨fun c member => compact.spaces c (List.mem_of_mem_take member),
        compact.single.take limit⟩
    have visible : ∀ c ∈ ("..." : Text), isBlank c = false := by decide
    refine begun.append (compact_of_visible "..." visible) ?_
    intro c last next first
    exact Or.inr (visible next (List.mem_of_mem_head? first))

/-- A compact text holds no line feed. A line feed is a blank and no space. -/
theorem unbroken {text : Text} (compact : Compact text) : CodePoint.char '\n' ∉ text := by
  intro feed
  have space := compact.spaces _ feed (by decide)
  cases space

end Compact

/-- A word is a text of some characters, none of which is blank. Two blanks side by side have
    no empty word between them. -/
theorem visible_of_mem_words (text word : Text) (member : word ∈ words text) :
    word ≠ [] ∧ ∀ c ∈ word, isBlank c = false := by
  obtain ⟨part, some⟩ := List.mem_filter.mp member
  refine ⟨by simpa using some, fun c inside => ?_⟩
  exact (of_mem_splitOnP isBlank text word part c inside).2

/-- Words with a space between neighbours are compact and begin visibly. No word is empty, so
    no two spaces meet. -/
theorem compact_join (parts : List Text)
    (visible : ∀ part ∈ parts, part ≠ [] ∧ ∀ c ∈ part, isBlank c = false) :
    Compact (join " " parts) ∧ ∀ c ∈ (join " " parts).head?, isBlank c = false := by
  induction parts with
  | nil => exact ⟨compact_of_visible [] (by simp), by simp [join]⟩
  | cons part parts inductionHypothesis =>
    obtain ⟨some, seen⟩ := visible part List.mem_cons_self
    have whole := compact_of_visible part seen
    obtain ⟨c, others, rfl⟩ := List.exists_cons_of_ne_nil some
    have begins : isBlank c = false := seen c List.mem_cons_self
    cases parts with
    | nil => simpa [join, begins] using whole
    | cons next parts =>
      obtain ⟨further, start⟩ := inductionHypothesis fun part member =>
        visible part (List.mem_cons_of_mem _ member)
      have joined : join " " ((c :: others) :: next :: parts) =
          (c :: others) ++ (" " ++ join " " (next :: parts)) := by
        simp [join, List.intercalate_cons_cons]
      have space : Compact (" " : Text) := ⟨by decide, .singleton _⟩
      have behind : Compact (" " ++ join " " (next :: parts)) :=
        space.append further fun _ _ other first => Or.inr (start other first)
      rw [joined]
      refine ⟨whole.append behind fun last final _ _ => Or.inl ?_, by simpa using begins⟩
      exact seen last (List.mem_of_mem_getLast? final)

/-- An abridged text has at most its limit of characters and the three points. -/
theorem length_abridge_le (limit : Nat) (text : Text) :
    (abridge limit text).length ≤ limit + 3 := by
  unfold abridge
  split
  · omega
  · have points : ("..." : Text).length = 3 := rfl
    rw [List.length_append, List.length_take, points]
    omega

end AgentRuns.Text
