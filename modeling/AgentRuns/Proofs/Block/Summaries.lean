import AgentRuns.Block.Summary
import AgentRuns.Proofs.Except
import AgentRuns.Proofs.Text.Digits
import AgentRuns.Proofs.Text.Words

/-!
# The shape of a summary

The summary of a search is read line by line. It opens with the number of entries,
shows the first entries in order, one to a line, and ends with the number of the
others if there are any. What an entry holds is shown on its line and nowhere else,
since its words are put a space apart before they are shown, and of any value only
the beginning is shown.

The mode of the search is shown as it is. Its line feeds break the first line, so
a mode can forge preview lines, and nothing else in a payload can.
-/

namespace AgentRuns

namespace Summary

/-- What is shown of an entry: the content of an object, anything else itself. -/
def subject (entry : Json) : Json :=
  match entry with
  | .object _ => (entry.field? "content").getD .null
  | _ => entry

/-- What stands before an entry's content: its score in percent, if it has one. -/
inductive Scored (entry : Json) : Text → Prop
  | unscored (noScore : (entry.field? "score").bind percent? = none) : Scored entry []
  | percent (score : Int) (found : (entry.field? "score").bind percent? = some (.ok score)) :
      Scored entry (Text.ofInt score ++ "% ")

/-- An excerpt of a text: its words a space apart, cut off behind a hundred and
    fifty characters. -/
structure Excerpt (text excerpt : Text) : Prop where
  cut : excerpt = Text.abridge 150 (Text.join " " (Text.words text))
  short : excerpt.length ≤ 153
  compact : Text.Compact excerpt

/-- A line that shows an entry: its score and an excerpt of its content. -/
def Previews (entry : Json) (line : Line) : Prop :=
  ∃ score excerpt, Scored entry score ∧ Excerpt (subject entry).shown excerpt ∧
    line = "  " ++ (score ++ excerpt)

/-- The line that counts the entries beyond those that are shown. -/
def others (count : Nat) : List Line :=
  if 3 < count then ["  ... and " ++ Text.ofNat (count - 3) ++ " more"] else []

/-- The number of entries in words. -/
def numbered (count : Nat) : Text :=
  Text.ofNat count ++ (if count = 1 then " result" else " results" : Text)

/-- A summary with some opening lines, the first of which begins with the number of
    entries, a line for each of the first three entries in order, and the number of
    the others. -/
structure Listed (entries : List Json) (opening previews : List Line) (summary : Text) :
    Prop where
  lines : summary.lines = opening ++ (previews ++ others entries.length)
  opens : ∃ first ∈ opening.head?, numbered entries.length <+: first
  previewed : List.Forall₂ Previews (entries.take 3) previews

/-- What is shown of a value is an excerpt: its words with single spaces, cut off at a fixed
    length. -/
theorem excerpt_snippet (value : Json) : Excerpt value.shown (snippet value) where
  cut := rfl
  short := Text.length_abridge_le snippetLength _
  compact :=
    have joined := Text.compact_join (Text.words value.shown) fun word member =>
      Text.visible_of_mem_words value.shown word member
    joined.1.abridge snippetLength

/-- An integer that is written is written in its digits, behind its sign. -/
theorem digits_eq_ok (number : Int) (text : Text) (written : digits number = .ok text) :
    text = Text.ofInt number := by
  unfold digits Text.ofInt? at written
  split at written
  · rename_i given
    split at given
    · cases given
      cases written
      rfl
    · cases given
  · cases written

/-- A preview shows its entry. Which of the forms it takes is decided by the fields that the
    entry has. -/
theorem previews_of_preview (entry : Json) (line : Line) (shown : preview entry = .ok line) :
    Previews entry line := by
  have excerpt := excerpt_snippet (subject entry)
  cases entry with
  | object fields =>
    simp only [preview] at shown
    cases found : ((Json.object fields).field? "score").bind percent? with
    | none =>
      rw [found] at shown
      cases shown
      exact ⟨[], _, .unscored found, excerpt, rfl⟩
    | some percent =>
      rw [found] at shown
      obtain ⟨score, rfl, given⟩ := ok_of_bind percent _ line shown
      obtain ⟨written, spelled, rest⟩ := ok_of_bind (digits score) _ line given
      cases digits_eq_ok score written spelled
      cases rest
      exact ⟨_, _, .percent score found, excerpt, by simp [subject]⟩
  | null | bool | int | float | string | list =>
    cases shown
    exact ⟨[], _, .unscored rfl, excerpt, rfl⟩

/-- The line that shows an entry is one line, whatever line feeds the entry holds. They are
    blanks and become spaces. -/
theorem Previews.unbroken {entry : Json} {line : Line} (previews : Previews entry line) :
    CodePoint.char '\n' ∉ line := by
  obtain ⟨score, excerpt, scored, content, rfl⟩ := previews
  have before : CodePoint.char '\n' ∉ score := by
    cases scored with
    | unscored => exact List.not_mem_nil
    | percent score found =>
      have mark : CodePoint.char '\n' ∉ ("% " : Text) := by decide
      simp [Text.notMem_ofInt (.char '\n') rfl nofun score, mark]
  have indent : CodePoint.char '\n' ∉ ("  " : Text) := by decide
  simp [indent, before, content.compact.unbroken]

/-- The lines that show the entries are one line each. -/
theorem unbroken_previews (entries : List Json) (previews : List Line)
    (each : List.Forall₂ Previews entries previews) :
    ∀ line ∈ previews, CodePoint.char '\n' ∉ line := by
  induction each with
  | nil => exact fun line member => absurd member List.not_mem_nil
  | cons shows _ inductionHypothesis =>
    intro line member
    rcases List.mem_cons.mp member with rfl | later
    · exact shows.unbroken
    · exact inductionHypothesis line later

/-- The mode of a search in brackets, if it has one. -/
def modeTag (payload : Json) : Text :=
  match mode? payload with
  | some mode => " (mode: " ++ mode ++ ")"
  | none => []

/-- The brackets add no line feed to the mode. Those inside the mode stay in it. -/
theorem count_modeTag (payload : Json) :
    (modeTag payload).count (.char '\n') = ((mode? payload).getD []).count (.char '\n') := by
  unfold modeTag
  cases mode? payload with
  | none => rfl
  | some mode =>
    have before : (" (mode: " : Text).count (.char '\n') = 0 := by decide
    have behind : (")" : Text).count (.char '\n') = 0 := by decide
    simp [List.count_append, before, behind]

/-- The noun of a count is in the plural for every count but one. There are no results in the
    plural too. -/
theorem counted_result (count : Nat) : counted count "result" = numbered count := by
  rw [counted, numbered, List.append_assoc, List.append_assoc]
  split <;> rfl

/-- The first line is the count, then the mode, then nothing that breaks a line. So it is the
    mode alone that can bring line feeds in. -/
theorem headline_parts (payload : Json) (count : Nat) (first : Text)
    (given : headline payload count = .ok first) :
    ∃ tokens, CodePoint.char '\n' ∉ tokens ∧
      first = numbered count ++ (modeTag payload ++ tokens) := by
  rw [← counted_result]
  unfold headline at given
  cases used : tokens? payload with
  | none =>
    rw [used] at given
    cases given
    exact ⟨[], List.not_mem_nil, List.append_assoc _ _ _⟩
  | some number =>
    rw [used] at given
    obtain ⟨text, written, rest⟩ := ok_of_bind (digits number) _ first given
    cases digits_eq_ok number text written
    cases rest
    refine ⟨_, ?_, List.append_assoc _ _ _⟩
    have before : CodePoint.char '\n' ∉ (" · " : Text) := by decide
    have behind : CodePoint.char '\n' ∉ (" tokens" : Text) := by decide
    simp [Text.notMem_ofInt (.char '\n') rfl nofun number, before, behind]

/-- A count with its noun holds no line feed. -/
theorem unbroken_numbered (count : Nat) : CodePoint.char '\n' ∉ numbered count := by
  have noun : CodePoint.char '\n' ∉ (" result" : Text) := by decide
  have plural : CodePoint.char '\n' ∉ (" results" : Text) := by decide
  unfold numbered
  split <;> simp [Text.notMem_ofNat (.char '\n') rfl count, noun, plural]

/-- The number of the others is one line, where there are others. -/
theorem unbroken_others (count : Nat) : ∀ line ∈ others count, CodePoint.char '\n' ∉ line := by
  have fixed : CodePoint.char '\n' ∉ ("  ... and " : Text) ∧
      CodePoint.char '\n' ∉ (" more" : Text) := by decide
  intro line member
  unfold others at member
  split at member
  · rw [List.mem_singleton.mp member]
    simp [Text.notMem_ofNat (.char '\n') rfl (count - 3), fixed.1, fixed.2]
  · cases member

/-- The others are told in a line if there are more than three entries, and in none otherwise. -/
theorem length_others (count : Nat) : (others count).length = if 3 < count then 1 else 0 := by
  unfold others
  split <;> rfl

/-- A search that can be summed up is listed, and its opening is its first line,
    broken where the mode is. -/
theorem listed_of_ofEntries (payload : Json) (entries : List Json) (summary : Text)
    (shown : ofEntries payload entries = .ok summary) :
    ∃ opening previews, Listed entries opening previews summary ∧
      opening.length = ((mode? payload).getD []).count (.char '\n') + 1 := by
  obtain ⟨first, headed, given⟩ := ok_of_bind _ _ summary shown
  obtain ⟨previews, previewed, rest⟩ := ok_of_bind _ _ summary given
  cases rest
  obtain ⟨tokens, unbroken, rfl⟩ := headline_parts payload entries.length first headed
  have each := (ok_of_mapM preview _ previews previewed).imp previews_of_preview
  have below : ∀ line ∈ previews ++ others entries.length, CodePoint.char '\n' ∉ line := by
    intro line member
    rcases List.mem_append.mp member with preview | other
    · exact unbroken_previews _ previews each line preview
    · exact unbroken_others _ line other
  refine ⟨Text.lines (numbered entries.length ++ (modeTag payload ++ tokens)), previews,
    ⟨?_, ?_, each⟩, ?_⟩
  · exact Text.lines_unlines_cons _ _ below
  · rw [Text.lines_behind _ _ (unbroken_numbered _)]
    obtain ⟨head, more, split⟩ := List.exists_cons_of_ne_nil
      (List.splitOn_ne_nil (.char '\n') (modeTag payload ++ tokens))
    rw [Text.lines, split]
    exact ⟨numbered entries.length ++ head, rfl, List.prefix_append _ _⟩
  · rw [Text.length_lines, List.count_append, List.count_append, count_modeTag,
      List.count_eq_zero.mpr (unbroken_numbered _), List.count_eq_zero.mpr unbroken]
    omega

end Summary

/-- The summary of a search is its opening, one line for each of the first three
    entries in order, and the number of the others if there are any. Each of them
    is shown by its score and at most a hundred and fifty characters and three
    points, in which every run of blanks is a single space. The opening is one line
    with the number of entries and one more for each line feed inside the mode; so
    the summary has as many lines as it should exactly if there is none. -/
theorem search_is_listed_below_its_mode (payload : Json) (entries : List Json) (summary : Text)
    (search : payload.field? "results" = some (.list entries))
    (shown : Summary.ofPayload payload = .ok summary) :
    ∃ opening previews, Summary.Listed entries opening previews summary ∧
      opening.length = ((Summary.mode? payload).getD []).count (.char '\n') + 1 ∧
      (summary.lines.length = 1 + min entries.length 3 + (if 3 < entries.length then 1 else 0) ↔
        CodePoint.char '\n' ∉ (Summary.mode? payload).getD []) := by
  rw [Summary.ofPayload, search] at shown
  obtain ⟨opening, previews, listed, broken⟩ :=
    Summary.listed_of_ofEntries payload entries summary shown
  refine ⟨opening, previews, listed, broken, ?_⟩
  have shownFirst : previews.length = min entries.length 3 := by
    rw [← listed.previewed.length_eq, List.length_take, Nat.min_comm]
  rw [listed.lines, List.length_append, List.length_append, broken, shownFirst,
    Summary.length_others, ← List.count_eq_zero]
  omega

/-- Five entries of several kinds. -/
def mixedEntries : List Json :=
  [.object [("score", .int 1), ("content", .string "first\n\n  second ")],
    .string "\tbare\r\nline", .object [("content", .int 7)], .null, .bool true]

/-- A search with these entries and a mode of one line. -/
def mixedSearch : Json := .object [("mode", .string " vector "), ("results", .list mixedEntries)]

/-- Entries of several kinds stand on a line each, below the one of the mode. The two that are
    not shown are counted in the last line. -/
theorem mixed_entries_are_listed :
    ∃ opening previews,
      Summary.Listed mixedEntries opening previews
        ("5 results (mode: vector)\n  100% first second\n  bare line\n  7\n" ++
          "  ... and 2 more") ∧
      opening.length = 1 := by
  obtain ⟨opening, previews, listed, broken, _⟩ :=
    search_is_listed_below_its_mode mixedSearch mixedEntries _ rfl rfl
  exact ⟨opening, previews, listed, broken⟩

/-- A search without entries whose mode holds a line like that of an entry. -/
def forgedSearch : Json :=
  .object [("results", .list []), ("mode", .string "fast\n  90% forged")]

/-- The line in the mode becomes one of the summary, which has no entry to show. It looks like
    the line of an entry. -/
theorem mode_adds_a_line :
    ∃ summary, Summary.ofPayload forgedSearch = .ok summary ∧
      summary.lines = ["0 results (mode: fast", "  90% forged)"] ∧
      summary.lines.length ≠ 1 + min 0 3 + (if 3 < 0 then 1 else 0) :=
  ⟨_, rfl, by decide +kernel, by decide +kernel⟩

end AgentRuns
