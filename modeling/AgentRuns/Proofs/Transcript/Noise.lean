import AgentRuns.Proofs.Text.Lines
import AgentRuns.Proofs.Transcript.Recognition

/-!
# What noise looks like

Noise is told by how a line begins or by a notice anywhere in it, unless it is
blank altogether. So it remains noise whatever is written behind it, and taking
blanks away from the end of a line makes no noise of it. At the start of a line
this is different: there blanks hide what would be noise without them.
-/

namespace AgentRuns

namespace Text

/-- What a text begins with stands before the rest. -/
theorem startsWith_iff (text opening : Text) :
    text.startsWith opening = true ↔ ∃ rest, text = opening ++ rest := by
  rw [startsWith, List.isPrefixOf_iff_prefix]
  constructor
  · rintro ⟨rest, whole⟩
    exact ⟨rest, whole.symm⟩
  · rintro ⟨rest, whole⟩
    exact ⟨rest, whole.symm⟩

/-- A part that stands between others is included. -/
theorem includes_of_form (before part behind : Text) :
    includes (before ++ (part ++ behind)) part = true := by
  induction before with
  | nil =>
    have here : part.isPrefixOf? (part ++ behind) = some behind :=
      List.isPrefixOf?_eq_some_iff_append_eq.mpr rfl
    cases whole : part ++ behind with
    | nil =>
      rw [whole] at here
      simp [includes, afterFirst?, here]
    | cons c rest =>
      rw [whole] at here
      simp [includes, afterFirst?, here]
  | cons c before inductionHypothesis =>
    rw [includes, Option.isSome_iff_exists] at inductionHypothesis ⊢
    obtain ⟨rest, found⟩ := inductionHypothesis
    rw [List.cons_append, afterFirst?, found]
    cases part.isPrefixOf? (c :: (before ++ (part ++ behind))) with
    | some other => exact ⟨other, rfl⟩
    | none => exact ⟨rest, rfl⟩

end Text

namespace Line

/-- An answer that defaults to no is yes only if it is given. -/
theorem getD_false_eq_true (answer : Option Bool) :
    answer.getD false = true ↔ answer = some true := by
  cases answer <;> simp

/-- The form of a line that announces a profile. Blanks of any kind may stand in it, and at
    least one stands before the name of the file. -/
theorem loadsProfile_iff (line : Line) : line.loadsProfile = true ↔ ∃ gap space rest,
    line = "---" ++ (gap ++ ("loading" ++ (space ++ (".bash_profile" ++ rest)))) ∧
      (∀ c ∈ gap, Text.isBlank c = true) ∧ Filled Text.isBlank space := by
  simp only [loadsProfile, getD_false_eq_true, Option.bind_eq_bind, Option.bind_eq_some_iff,
    Prod.exists, some?_eq_some, Text.after?_eq_some, Option.pure_def, Option.some.injEq,
    Text.startsWith_iff]
  constructor
  · rintro ⟨behind, rfl, _, named, space, _, ⟨rfl, filled, _⟩, rest, rfl⟩
    refine ⟨behind.takeWhile Text.isBlank, space, rest, ?_,
      fun c => List.mem_takeWhile_imp, filled⟩
    rw [← named, Text.stripStart, List.takeWhile_append_dropWhile]
  · rintro ⟨gap, space, rest, rfl, gapBlank, filled⟩
    refine ⟨_, rfl, _, ?_, space, _, ⟨rfl, filled, ?_⟩, rest, rfl⟩
    · rw [Text.stripStart, List.dropWhile_append_of_pos gapBlank]
      rfl
    · exact outside_of_opening _ '.' _ _ rfl (by decide)

/-- The form of a complaint about a command. The number in it has at least one digit. -/
theorem complainsOfCommand_iff (line : Line) : line.complainsOfCommand = true ↔
    ∃ number rest, line = "zsh:" ++ (number ++ (": command not found:" ++ rest)) ∧
      Filled Text.isDigit number := by
  simp only [complainsOfCommand, getD_false_eq_true, Option.bind_eq_bind,
    Option.bind_eq_some_iff, Prod.exists, some?_eq_some, Text.after?_eq_some, Option.pure_def,
    Option.some.injEq, Text.startsWith_iff]
  constructor
  · rintro ⟨_, rfl, number, _, ⟨rfl, filled, _⟩, rest, rfl⟩
    exact ⟨number, rest, rfl, filled⟩
  · rintro ⟨number, rest, rfl, filled⟩
    refine ⟨_, rfl, number, _, ⟨rfl, filled, ?_⟩, rest, rfl⟩
    exact outside_of_opening _ ':' _ _ rfl (by decide)

/-- The notice of loaded secrets. -/
def notice : Text := "All secrets loaded from cache"

/-- What makes a line noise that is not blank. There are four tests. -/
theorem isNoise_iff (line : Line) (notBlank : Text.allBlank line = false) :
    line.isNoise = true ↔ line.startsWith "🎊" = true ∨ line.loadsProfile = true ∨
      line.complainsOfCommand = true ∨ line.includes notice = true := by
  simp [isNoise, notBlank, notice, or_assoc]

/-- The notice stands in no part of a line that is no noise. It would make noise of the whole
    line. -/
theorem silent_of_loud (left part right : Text) (loud : isNoise (left ++ (part ++ right)) = false) :
    part.includes notice = false := by
  rw [Bool.eq_false_iff]
  intro included
  obtain ⟨before, behind, rfl⟩ := Text.form_of_includes part notice included
  have whole : Text.includes (left ++ (before ++ (notice ++ behind) ++ right)) notice = true := by
    have form := Text.includes_of_form (left ++ before) notice (behind ++ right)
    simpa only [List.append_assoc] using form
  rw [notice] at whole loud
  rw [isNoise, whole, Bool.or_true] at loud
  cases loud

/-- A line that is not blank is none either with more behind it. -/
theorem allBlank_append (line rest : Text) (notBlank : Text.allBlank line = false) :
    Text.allBlank (line ++ rest) = false := by
  rw [Text.allBlank, List.all_append, ← Text.allBlank, notBlank, Bool.false_and]

/-- Noise that is not blank remains noise, whatever is written behind it. Each test looks at
    the start of the line or for a part of it. -/
theorem isNoise_append (line rest : Line) (notBlank : Text.allBlank line = false)
    (noise : line.isNoise = true) : isNoise (line ++ rest) = true := by
  rw [isNoise_iff _ (allBlank_append line rest notBlank)]
  rcases (line.isNoise_iff notBlank).mp noise with cheer | profile | complaint | notice
  · obtain ⟨behind, rfl⟩ := (Text.startsWith_iff line _).mp cheer
    rw [List.append_assoc]
    exact Or.inl ((Text.startsWith_iff _ _).mpr ⟨_, rfl⟩)
  · obtain ⟨gap, space, behind, rfl, blank, filled⟩ := line.loadsProfile_iff.mp profile
    refine Or.inr (Or.inl ((loadsProfile_iff _).mpr
      ⟨gap, space, behind ++ rest, ?_, blank, filled⟩))
    simp only [List.append_assoc]
  · obtain ⟨number, behind, rfl, filled⟩ := line.complainsOfCommand_iff.mp complaint
    refine Or.inr (Or.inr (Or.inl ((complainsOfCommand_iff _).mpr
      ⟨number, behind ++ rest, ?_, filled⟩)))
    simp only [List.append_assoc]
  · obtain ⟨before, behind, form⟩ := Text.form_of_includes line _ notice
    refine Or.inr (Or.inr (Or.inr ?_))
    rw [form, List.append_assoc, List.append_assoc]
    exact Text.includes_of_form before _ (behind ++ rest)

/-- Taking blanks away from the end makes no noise. Taking them away from the start can. -/
theorem isNoise_of_stripEnd (line : Line) (noise : isNoise (Text.stripEnd line) = true) :
    line.isNoise = true := by
  cases blank : Text.allBlank line with
  | true => simp [isNoise, blank]
  | false =>
    obtain ⟨blanks, whole⟩ := Text.stripEnd_initial line
    have noisy := isNoise_append _ blanks (Text.allBlank_stripEnd line blank) noise
    rwa [whole] at noisy

end Line

end AgentRuns
