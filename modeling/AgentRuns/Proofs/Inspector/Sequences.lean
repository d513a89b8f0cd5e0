import AgentRuns.Inspector.Palette
import AgentRuns.Proofs.Text.Unescaped
import AgentRuns.Proofs.Transcript.Recognition
import Mathlib.Data.List.Forall2

/-!
# Text without its styles

A sequence that switches a style is an escape character, a bracket, digits and an
`m`. Taking all of them out of a text leaves what a terminal shows. No sequence
breaks a line, so they can be taken out line by line.

A styled text fades to a plain one if the plain one is left of it in front of any
other text. Texts without an escape character fade to themselves, styles to nothing,
and texts one behind the other to what each of them fades to: nothing that is put
together of such pieces has a sequence across two of them.
-/

namespace AgentRuns

namespace Style

/-- The sequence that switches a style on by its code. -/
def switch (code : Text) : Text := "\x1b[" ++ (code ++ "m")

/-- What follows the sequence at the start of a text, if one stands there. -/
def behindSwitch? (text : Text) : Option Text := do
  let (_, rest) ← Line.some? Text.isPlainDigit (← text.after? "\x1b[")
  rest.after? "m"

/-- The sequence at the start of a text has digits for its code. It has at least one, and a
    letter ends it. -/
theorem behindSwitch?_eq_some (text rest : Text) :
    behindSwitch? text = some rest ↔
      ∃ code, Line.Filled Text.isPlainDigit code ∧ text = switch code ++ rest := by
  simp only [behindSwitch?, Option.bind_eq_bind, Option.bind_eq_some_iff, Prod.exists,
    Line.some?_eq_some, Text.after?_eq_some]
  constructor
  · rintro ⟨_, rfl, code, _, ⟨rfl, filled, _⟩, rfl⟩
    exact ⟨code, filled, by simp [switch]⟩
  · rintro ⟨code, filled, rfl⟩
    refine ⟨_, ?_, code, _, ⟨rfl, filled, ?_⟩, rfl⟩
    · simp [switch]
    · exact Line.outside_of_opening Text.isPlainDigit 'm' "m" rest rfl rfl

/-- A text with a sequence at its start is longer than what follows. This is why taking
    sequences away comes to an end. -/
theorem length_behindSwitch? (text rest : Text) (found : behindSwitch? text = some rest) :
    rest.length < text.length := by
  obtain ⟨code, _, rfl⟩ := (behindSwitch?_eq_some text rest).mp found
  have bracket : ("\x1b[" : Text).length = 2 := rfl
  simp only [switch, List.length_append, bracket]
  omega

/-- No sequence stands at the start of a text that begins with another character. -/
theorem behindSwitch?_of_ne (c : CodePoint) (rest : Text) (other : c ≠ .char '\x1b') :
    behindSwitch? (c :: rest) = none := by
  have noEscape : Text.after? (c :: rest) "\x1b[" = none :=
    Text.after?_of_head c (.char '\x1b') rest "[" other.symm
  rw [behindSwitch?, noEscape]
  rfl

/-- No sequence holds a line feed. So sequences stand within lines. -/
theorem unbroken_switch (code : Text) (digits : Line.Filled Text.isPlainDigit code) :
    CodePoint.char '\n' ∉ switch code := by
  have inCode : CodePoint.char '\n' ∉ code := by
    intro feed
    have digit := digits.2 _ feed
    exact absurd digit (by decide)
  have before : CodePoint.char '\n' ∉ ("\x1b[" : Text) := by decide
  have behind : CodePoint.char '\n' ∉ ("m" : Text) := by decide
  simp [switch, before, inCode, behind]

/-- No sequence stands at the start of what begins a text without one. A text cut short
    completes no sequence. -/
theorem behindSwitch?_of_start (start more : Text)
    (noSwitch : behindSwitch? (start ++ more) = none) : behindSwitch? start = none := by
  cases found : behindSwitch? start with
  | none => rfl
  | some behind =>
    obtain ⟨code, digits, rfl⟩ := (behindSwitch?_eq_some start behind).mp found
    have longer := (behindSwitch?_eq_some (switch code ++ behind ++ more) (behind ++ more)).mpr
      ⟨code, digits, List.append_assoc _ _ _⟩
    rw [longer] at noSwitch
    cases noSwitch

/-- The codes of a style, one for each sequence. -/
def codes : Style → List Text
  | .reset => ["0"]
  | .bold => ["1"]
  | .dim => ["2"]
  | .cyan => ["36"]
  | .yellow => ["33"]
  | .green => ["32"]
  | .red => ["31"]
  | .magenta => ["35"]
  | .blue => ["34"]
  | .gray => ["90"]
  | .onCyan => ["46", "30"]
  | .onYellow => ["43", "30"]
  | .onGreen => ["42", "30"]
  | .onMagenta => ["45", "37"]

/-- A style is switched on by the sequences of its codes, one behind the other. -/
theorem sequence_eq (style : Style) : style.sequence = style.codes.flatMap switch := by
  cases style <;> rfl

/-- The code of a style is digits, and some digits. There are few styles to look at. -/
theorem filled_of_mem_codes (style : Style) :
    ∀ code ∈ style.codes, Line.Filled Text.isPlainDigit code := by
  unfold Line.Filled
  cases style <;> decide

end Style

namespace Text

open Style

/-- The text without the sequences that switch styles. -/
def unstyled (text : Text) : Text :=
  match text with
  | [] => []
  | c :: rest =>
    match _found : behindSwitch? (c :: rest) with
    | some behind => unstyled behind
    | none => c :: unstyled rest
termination_by text.length
decreasing_by
  · exact length_behindSwitch? _ _ _found
  · exact Nat.lt_succ_self _

/-- A sequence goes, and what follows it is looked at anew. -/
theorem unstyled_switch (code rest : Text) (digits : Line.Filled isPlainDigit code) :
    unstyled (switch code ++ rest) = unstyled rest := by
  have found := (behindSwitch?_eq_some (switch code ++ rest) rest).mpr ⟨code, digits, rfl⟩
  obtain ⟨c, others, whole⟩ : ∃ c others, switch code ++ rest = c :: others := ⟨_, _, rfl⟩
  rw [whole] at found ⊢
  rw [unstyled]
  split
  · rename_i behind same
    rw [found] at same
    rw [Option.some.inj same]
  · rename_i noSwitch
    rw [found] at noSwitch
    cases noSwitch

/-- A character with which no sequence begins stays. It may be an escape character that stands
    alone. -/
theorem unstyled_cons (c : CodePoint) (rest : Text)
    (noSwitch : behindSwitch? (c :: rest) = none) :
    unstyled (c :: rest) = c :: unstyled rest := by
  rw [unstyled]
  split
  · rename_i behind found
    rw [noSwitch] at found
    cases found
  · rfl

/-- Two sequences in a row go, and what is not quite one stays. -/
example : unstyled "\x1b[46m\x1b[30m a \x1b[0m\x1b[m" = " a \x1b[m" := by
  cbv

/-- The sequences of a text stand in its lines. Taking them from the text is taking them from
    each line. -/
theorem lines_unstyled (text : Text) : (unstyled text).lines = text.lines.map unstyled := by
  induction text using unstyled.induct with
  | case1 => simp [unstyled, lines]
  | case2 c rest behind found inductionHypothesis =>
    obtain ⟨code, digits, whole⟩ := (behindSwitch?_eq_some (c :: rest) behind).mp found
    rw [whole, unstyled_switch code behind digits, lines_behind _ _ (unbroken_switch code digits),
      inductionHypothesis]
    obtain ⟨first, others, split⟩ := List.exists_cons_of_ne_nil
      (List.splitOn_ne_nil (.char '\n') behind)
    rw [lines, split, List.modifyHead_cons, List.map_cons, List.map_cons,
      unstyled_switch code first digits]
  | case3 c rest noSwitch inductionHypothesis =>
    rw [unstyled_cons c rest noSwitch]
    by_cases feed : c = .char '\n'
    · subst feed
      have split (text : Text) : lines (.char '\n' :: text) = [] :: lines text :=
        lines_feed [] text
      rw [split, split, inductionHypothesis, List.map_cons]
      simp [unstyled]
    · have alone : CodePoint.char '\n' ∉ [c] := by simpa using Ne.symm feed
      have split (text : Text) : lines (c :: text) = (lines text).modifyHead (c :: ·) :=
        lines_behind [c] text alone
      obtain ⟨first, others, whole⟩ := List.exists_cons_of_ne_nil
        (List.splitOn_ne_nil (.char '\n') rest)
      obtain ⟨more, rfl⟩ : first <+: rest := by
        rw [← unlines_lines rest, lines, whole]
        cases others with
        | nil => simp [unlines]
        | cons next others => simp [unlines, List.intercalate_cons_cons, List.append_assoc]
      rw [split, split, inductionHypothesis, lines, whole, List.modifyHead_cons, List.map_cons,
        List.map_cons, List.modifyHead_cons,
        unstyled_cons c first (behindSwitch?_of_start (c :: first) more noSwitch)]

/-- A styled text fades to a plain one that is left of it, whatever stands behind. -/
def FadesTo (styled plain : Text) : Prop :=
  ∀ rest, unstyled (styled ++ rest) = plain ++ unstyled rest

/-- What a text fades to is left of it. Fading is told with any text behind, and here it is
    the empty one. -/
theorem FadesTo.unstyled_eq {styled plain : Text} (fades : FadesTo styled plain) :
    unstyled styled = plain := by
  have whole := fades []
  rwa [List.append_nil, unstyled, List.append_nil] at whole

/-- Nothing fades to nothing. -/
theorem fadesTo_nil : FadesTo [] [] := fun _ => rfl

/-- Texts one behind the other fade to what each fades to. No sequence is begun in the one and
    ended in the other. -/
theorem FadesTo.append {styled plain more plainMore : Text} (first : FadesTo styled plain)
    (second : FadesTo more plainMore) : FadesTo (styled ++ more) (plain ++ plainMore) := by
  intro rest
  rw [List.append_assoc, first, second, List.append_assoc]

/-- A sequence fades to nothing, whatever follows it. -/
theorem fadesTo_switch (code : Text) (digits : Line.Filled isPlainDigit code) :
    FadesTo (switch code) [] :=
  fun rest => unstyled_switch code rest digits

/-- A style fades to nothing. It may be switched on by several sequences. -/
theorem fadesTo_sequence (style : Style) : FadesTo style.sequence [] := by
  have each (codes : List Text) (digits : ∀ code ∈ codes, Line.Filled isPlainDigit code) :
      FadesTo (codes.flatMap switch) [] := by
    induction codes with
    | nil => exact fadesTo_nil
    | cons code codes inductionHypothesis =>
      have others := inductionHypothesis fun other member =>
        digits other (List.mem_cons_of_mem code member)
      exact (fadesTo_switch code (digits code List.mem_cons_self)).append others
  rw [sequence_eq]
  exact each style.codes (filled_of_mem_codes style)

/-- A text without an escape character stays as it is, whatever follows it. No sequence begins
    in it. -/
theorem Unescaped.fadesTo {text : Text} (unescaped : Unescaped text) : FadesTo text text := by
  induction text with
  | nil => exact fadesTo_nil
  | cons c text inductionHypothesis =>
    have noEscape : c ≠ .char '\x1b' := fun same => unescaped (same ▸ List.mem_cons_self)
    have others := inductionHypothesis fun member => unescaped (List.mem_cons_of_mem c member)
    intro rest
    rw [List.cons_append, unstyled_cons _ _ (behindSwitch?_of_ne c _ noEscape), others,
      List.cons_append]

/-- A text that fades behind one that stays. The one that stays must bring no sequence in. -/
theorem FadesTo.behind {styled plain : Text} (fades : FadesTo styled plain) (before : Text)
    (unescaped : Unescaped before) : FadesTo (before ++ styled) (before ++ plain) :=
  unescaped.fadesTo.append fades

/-- A text that fades before one that stays. The one that stays must bring no sequence in. -/
theorem FadesTo.before {styled plain : Text} (fades : FadesTo styled plain) (behind : Text)
    (unescaped : Unescaped behind) : FadesTo (styled ++ behind) (plain ++ behind) :=
  fades.append unescaped.fadesTo

/-- What is made of the same items fades item by item. -/
theorem fadesTo_map {α : Type} (items : List α) (styled plain : α → Text)
    (each : ∀ item ∈ items, FadesTo (styled item) (plain item)) :
    List.Forall₂ FadesTo (items.map styled) (items.map plain) := by
  rw [List.forall₂_map_left_iff, List.forall₂_map_right_iff, List.forall₂_same]
  exact each

/-- Lines fade line by line. The line feeds between them are no part of a sequence. -/
theorem fadesTo_unlines (styled plain : List Line) (each : List.Forall₂ FadesTo styled plain) :
    FadesTo (unlines styled) (unlines plain) := by
  induction each with
  | nil => exact fadesTo_nil
  | @cons line plainLine lines plainLines first others inductionHypothesis =>
    cases others with
    | nil => simpa [unlines] using first
    | cons second others =>
      have feed : Unescaped [.char '\n'] := by decide
      simpa [unlines, List.intercalate_cons_cons] using
        (first.append feed.fadesTo).append inductionHypothesis

end Text

end AgentRuns
