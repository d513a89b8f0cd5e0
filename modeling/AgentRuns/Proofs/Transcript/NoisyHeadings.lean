import AgentRuns.Proofs.Transcript.Noise
import AgentRuns.Proofs.Transcript.Steps

/-!
# Headings that are noise

Commands, sessions and calls are told with headings that are made from the parts
of their lines. A command's heading is its line. The notice of loaded secrets
stands in none of the headings: it has blanks inside, so it could stand only in
a part that it already stood in as the line was read. The heading of a call
begins with the tool, though, where a header has its rule. So it is noise if the
tool begins like noise.
-/

namespace AgentRuns

namespace Line

/-- What is read up to the end of an unbroken line is all of it. Only a line feed could stand
    behind. -/
theorem eq_of_ends (text rest : Text) (unbroken : CodePoint.char '\n' ∉ text ++ rest)
    (closes : ends rest = true) : rest = [] := by
  simp only [ends, Bool.or_eq_true, List.isEmpty_iff, beq_iff_eq] at closes
  rcases closes with rfl | rfl
  · rfl
  · exact absurd (List.mem_append_right text List.mem_cons_self) unbroken

/-- A command line is the heading of its command. Nothing of the line is left out. -/
theorem eq_of_command? (line : Line) (text : Text) (unbroken : CodePoint.char '\n' ∉ line)
    (command : line.command? = some text) : line = "$ " ++ text := by
  obtain ⟨rest, rfl, _, closes⟩ := (command?_eq_some line text).mp command
  rw [← List.append_assoc] at unbroken ⊢
  rw [eq_of_ends _ rest unbroken closes, List.append_nil]

/-- A part that begins with a character can begin only behind a text without that
    character. -/
theorem form_behind (left right before part behind : Text) (c : CodePoint)
    (first : part.head? = some c) (absent : c ∉ left)
    (form : before ++ (part ++ behind) = left ++ right) :
    ∃ others, right = others ++ (part ++ behind) := by
  rcases List.append_eq_append_iff.mp form with ⟨inner, leftForm, overlap⟩ | ⟨others, _, found⟩
  · cases inner with
    | nil => exact ⟨[], overlap.symm⟩
    | cons d inner =>
      have same : some c = some d := by
        have heads := congrArg List.head? overlap
        rwa [List.head?_append, first] at heads
      cases same
      exact absurd (by simp [leftForm]) absent
  · exact ⟨others, found⟩

/-- The notice does not begin inside a word that a blank follows, unless the word
    ends like the first word of the notice and the others follow. -/
theorem notice_behind (word right before behind : Text)
    (filled : ∀ c ∈ word, (!Text.isBlank c) = true)
    (form : before ++ (notice ++ behind) = word ++ (" " ++ right)) :
    (∃ others, right = others ++ (notice ++ behind)) ∨
      ("All" : Text) <:+ word ∧ right = "secrets loaded from cache" ++ behind := by
  rcases List.append_eq_append_iff.mp form with ⟨inner, wordForm, overlap⟩ | ⟨others, _, found⟩
  · have inside : spaces inner = 0 := by
      refine spaces_of_inside _ _ (by decide) fun c member => filled c ?_
      rw [wordForm]
      exact List.mem_append_right before member
    have firstWord : inner = "All" := by
      have same := congrArg beforeSpace overlap
      rw [beforeSpace_eq inner right inside] at same
      exact same.symm
    rw [firstWord] at overlap wordForm
    refine Or.inr ⟨⟨before, wordForm.symm⟩, ?_⟩
    have rest : ("All " ++ ("secrets loaded from cache" ++ behind) : Text) = "All " ++ right :=
      overlap
    exact (List.append_cancel_left rest).symm
  · exact Or.inl (form_behind " " right others notice behind 'A' rfl (by decide) found.symm)

/-- A session is told without noise if its line is none: the notice could stand
    in the model alone. -/
theorem isNoise_ofSession (line : Line) (provider model : Text)
    (session : line.session? = some (provider, model)) (loud : line.isNoise = false) :
    isNoise (Event.ofSession provider model).content = false := by
  obtain ⟨rest, form, ⟨_, providerFilled⟩, _⟩ := (session?_eq_some line provider model).mp session
  have content : (Event.ofSession provider model).content =
      "Session started with " ++ (provider ++ (" " ++ ("/ " ++ model))) := by
    simp only [Event.ofSession, List.append_assoc]
    rfl
  have noNotice : (Event.ofSession provider model).content.includes notice = false := by
    rw [Bool.eq_false_iff]
    intro included
    obtain ⟨before, behind, found⟩ := Text.form_of_includes _ _ included
    rw [content] at found
    obtain ⟨before, found⟩ := form_behind _ _ before notice behind 'A' rfl (by decide) found.symm
    rcases notice_behind provider _ before behind providerFilled found.symm with
      ⟨before, found⟩ | ⟨_, impossible⟩
    · obtain ⟨before, found⟩ := form_behind _ _ before notice behind 'A' rfl (by decide) found.symm
      have whole : line = ("starting session | provider: " ++ (provider ++ " model: ")) ++
          (model ++ rest) := by
        rw [form]
        simp only [List.append_assoc]
      have silent := silent_of_loud _ model rest (whole ▸ loud)
      rw [found, Text.includes_of_form] at silent
      cases silent
    · cases impossible
  rw [notice, content] at noNotice
  rw [content]
  simp only [isNoise, noNotice, Bool.or_false, Bool.or_eq_false_iff]
  exact ⟨⟨⟨rfl, rfl⟩, rfl⟩, rfl⟩

/-- A session is told in one line. The provider and the model are parts of one. -/
theorem unbroken_ofSession (line : Line) (provider model : Text)
    (session : line.session? = some (provider, model)) :
    CodePoint.char '\n' ∉ (Event.ofSession provider model).content := by
  obtain ⟨_, _, ⟨_, providerFilled⟩, ⟨_, modelFilled⟩, _⟩ :=
    (session?_eq_some line provider model).mp session
  have inProvider : CodePoint.char '\n' ∉ provider := fun feed =>
    absurd (providerFilled _ feed) (by decide)
  have inModel : CodePoint.char '\n' ∉ model := fun feed =>
    absurd (modelFilled _ feed) (by decide)
  have inWords : CodePoint.char '\n' ∉ ("Session started with " : Text) := by decide
  have inSlash : CodePoint.char '\n' ∉ (" / " : Text) := by decide
  simp only [Event.ofSession, List.mem_append, inProvider, inModel, inWords, inSlash, or_self,
    not_false_eq_true]

/-- Whether a line is recognized as what begins the item. -/
def Begins (line : Line) : Heading → Prop
  | .call tool extension => line.toolHeader? = some (tool, extension)
  | .command text => line.command? = some text
  | .session provider model => line.session? = some (provider, model)
  | .run header => header = line

/-- What a line is told to begin it is recognized as. The tests come in an order, and the
    kinds exclude each other. -/
theorem begins_of_heading? (line : Line) (heading : Heading)
    (found : line.heading? = some heading) : line.Begins heading := by
  unfold heading? at found
  split at found
  · rename_i header
    cases found
    exact header
  · split at found
    · cases found
    · split at found
      · cases found
        change line.command? = some _
        assumption
      · cases found
        change line.session? = some _
        assumption
      · cases found
        rfl
      · cases found

end Line

/-- What follows a part stands at the end of the text. -/
theorem Text.suffix_of_afterFirst? (part text rest : Text)
    (found : Text.afterFirst? part text = some rest) : rest <:+ text := by
  induction text with
  | nil => exact ⟨part, List.isPrefixOf?_eq_some_iff_append_eq.mp found⟩
  | cons c text inductionHypothesis =>
    rcases Option.or_eq_some_iff.mp found with here | ⟨_, later⟩
    · exact ⟨part, List.isPrefixOf?_eq_some_iff_append_eq.mp here⟩
    · exact (inductionHypothesis later).trans (List.suffix_cons c text)

/-- A text that is shown in place of a value: its end, possibly behind a mark. -/
def Abbreviates (shown value : Text) : Prop :=
  ∃ tail, tail <:+ value ∧ (shown = tail ∨ shown = ".../" ++ tail)

/-- A shortened path is the end of the path. So it brings no line break and no notice in. -/
theorem shortenPath_abbreviates (path : Text) : Abbreviates (shortenPath path) path := by
  unfold shortenPath
  cases found : Text.afterFirst? "/repo/" path with
  | some inside => exact ⟨inside, Text.suffix_of_afterFirst? _ path inside found, Or.inl rfl⟩
  | none =>
    dsimp only
    split
    · rename_i many
      refine ⟨_, ?_, Or.inr rfl⟩
      have whole : Text.join "/" (path.splitOn (.char '/')) = path := List.intercalate_splitOn _
      have apart := Text.join_append "/"
        ((path.splitOn (.char '/')).take ((path.splitOn (.char '/')).length - 3))
        ((path.splitOn (.char '/')).drop ((path.splitOn (.char '/')).length - 3))
        (List.ne_nil_of_length_pos (by rw [List.length_take]; omega))
        (List.ne_nil_of_length_pos (by rw [List.length_drop]; omega))
      rw [List.take_append_drop, whole, ← List.append_assoc] at apart
      exact ⟨_, apart.symm⟩
    · exact ⟨path, List.suffix_refl path, Or.inl rfl⟩

/-- A call is headed by its tool, or by its tool with a colon and the value of a
    parameter. -/
theorem callHeading_cases (tool : Text) (params : Table Text) :
    callHeading tool params = tool ∨ ∃ key value shown, params.get? key = some value ∧
      Abbreviates shown value ∧ callHeading tool params = (tool ++ ":") ++ (" " ++ shown) := by
  have given (key value : Text) (present : Text.present? (params.get? key) = some value) :
      params.get? key = some value := (Option.filter_eq_some_iff.mp present).1
  have whole (value : Text) : Abbreviates value value := ⟨value, List.suffix_refl value, Or.inl rfl⟩
  have words (shown : Text) : (tool ++ ": " ++ shown : Text) = (tool ++ ":") ++ (" " ++ shown) := by
    simp only [List.append_assoc]
    rfl
  unfold callHeading
  dsimp only
  split
  · rename_i shown telling
    refine Or.inr ?_
    obtain ⟨candidate, member, same⟩ := List.exists_of_findSome?_eq_some telling
    simp only [List.mem_cons, List.not_mem_nil, or_false, id] at member same
    subst same
    rcases member with path | command | query
    · obtain ⟨value, present, rfl⟩ := Option.map_eq_some_iff.mp path.symm
      exact ⟨"path", value, _, given _ value present, shortenPath_abbreviates value, words _⟩
    · exact ⟨"command", shown, shown, given _ shown command.symm, whole shown, words _⟩
    · exact ⟨"query", shown, shown, given _ shown query.symm, whole shown, words _⟩
  · exact Or.inl rfl

/-- Values without a line feed and without the notice. -/
structure Plain (params : Table Text) : Prop where
  unbroken : ∀ key value, params.get? key = some value → CodePoint.char '\n' ∉ value
  silent : ∀ key value, params.get? key = some value → value.includes Line.notice = false

/-- No parameters are plain. -/
theorem Plain.nil : Plain [] where
  unbroken := by
    intro key value found
    cases found
  silent := by
    intro key value found
    cases found

/-- The heading of a call is one line. Tools and parameters are parts of lines. -/
theorem callHeading_unbroken (tool : Text) (params : Table Text)
    (filled : ∀ c ∈ tool, (!Text.isBlank c) = true) (plain : Plain params) :
    CodePoint.char '\n' ∉ callHeading tool params := by
  have toolUnbroken : CodePoint.char '\n' ∉ tool := by
    intro feed
    exact absurd (filled _ feed) (by decide)
  rcases callHeading_cases tool params with
    heading | ⟨key, value, shown, found, abbreviates, heading⟩
  · rwa [heading]
  · have valueUnbroken := plain.unbroken key value found
    have shownUnbroken : CodePoint.char '\n' ∉ shown := by
      obtain ⟨tail, suffix, rfl | rfl⟩ := abbreviates
      · exact fun feed => valueUnbroken (suffix.mem feed)
      · intro feed
        rcases List.mem_append.mp feed with mark | inside
        · exact absurd mark (by decide)
        · exact valueUnbroken (suffix.mem inside)
    have inColon : CodePoint.char '\n' ∉ (":" : Text) := by decide
    have inBlank : CodePoint.char '\n' ∉ (" " : Text) := by decide
    simp only [heading, List.mem_append, toolUnbroken, inColon, inBlank, shownUnbroken, or_self,
      not_false_eq_true]

/-- The tool and the colon behind it are one word. No blank stands in it. -/
theorem filled_colon (tool : Text) (filled : ∀ c ∈ tool, (!Text.isBlank c) = true) :
    ∀ c ∈ tool ++ ":", (!Text.isBlank c) = true := by
  intro c member
  rcases List.mem_append.mp member with inTool | colon
  · exact filled c inTool
  · rw [List.mem_singleton.mp colon]
    decide

/-- The notice stands in no heading of a call. It has blanks, so it would have to stand in the
    value that is shown, and a parameter's line is no noise. -/
theorem callHeading_silent (tool : Text) (params : Table Text)
    (filled : ∀ c ∈ tool, (!Text.isBlank c) = true) (plain : Plain params) :
    (callHeading tool params).includes Line.notice = false := by
  rw [Bool.eq_false_iff]
  intro included
  obtain ⟨before, behind, form⟩ := Text.form_of_includes _ _ included
  rcases callHeading_cases tool params with
    heading | ⟨key, value, shown, found, abbreviates, heading⟩
  · rw [heading] at form
    have blank : CodePoint.char ' ' ∈ tool := by
      rw [form]
      exact List.mem_append_right _ (List.mem_append_left _ (by decide))
    exact absurd (filled _ blank) (by decide)
  · rw [heading] at form
    rcases Line.notice_behind _ shown before behind (filled_colon tool filled) form.symm with
      ⟨others, inShown⟩ | ⟨⟨first, ends⟩, _⟩
    · have inValue : ∃ earlier, value = earlier ++ (Line.notice ++ behind) := by
        obtain ⟨tail, ⟨start, rfl⟩, rfl | rfl⟩ := abbreviates
        · exact ⟨start ++ others, by rw [inShown, List.append_assoc]⟩
        · obtain ⟨others, inTail⟩ :=
            Line.form_behind ".../" tail others _ behind 'A' rfl (by decide) inShown.symm
          exact ⟨start ++ others, by rw [inTail, List.append_assoc]⟩
      obtain ⟨earlier, inValue⟩ := inValue
      have silent := plain.silent key value found
      rw [inValue, Text.includes_of_form] at silent
      cases silent
    · have last : some (CodePoint.char 'l') = some (CodePoint.char ':') := by
        have same := congrArg List.getLast? ends
        rwa [List.getLast?_append, List.getLast?_append] at same
      cases last

/-- The heading of a call looks like noise: the tool begins with a cheer, or it is
    named like a shell with a number and the parameter goes on like a complaint. -/
def Masquerades (tool heading : Text) : Prop :=
  tool.startsWith "🎊" = true ∨ ∃ number rest, Line.Filled Text.isDigit number ∧
    tool = "zsh:" ++ number ∧ heading = tool ++ (": command not found:" ++ rest)

/-- The text before its first blank. -/
def beforeBlank (text : Text) : Text := text.takeWhile (!Text.isBlank ·)

/-- What stands before the first blank is the word before it. -/
theorem beforeBlank_eq (word behind : Text) (c : CodePoint)
    (filled : ∀ c ∈ word, (!Text.isBlank c) = true) (blank : Text.isBlank c = true) :
    beforeBlank (word ++ c :: behind) = word := by
  rw [beforeBlank, List.takeWhile_append_of_pos filled,
    List.takeWhile_cons_of_neg (by simp [blank]), List.append_nil]

/-- The heading of a call announces no profile: its first word ends with a colon
    or is all of it. -/
theorem callHeading_loadsProfile (tool : Text) (params : Table Text)
    (filled : ∀ c ∈ tool, (!Text.isBlank c) = true) :
    Line.loadsProfile (callHeading tool params) = false := by
  rw [Bool.eq_false_iff]
  intro loads
  obtain ⟨gap, space, rest, form, gapBlank, someSpace, spaceBlank⟩ :=
    (Line.loadsProfile_iff _).mp loads
  obtain ⟨c, space, rfl⟩ := List.exists_cons_of_ne_nil someSpace
  have blank := spaceBlank c List.mem_cons_self
  rcases callHeading_cases tool params with heading | ⟨_, _, shown, _, _, heading⟩
  · have inTool : c ∈ tool := by
      rw [heading] at form
      rw [form]
      simp
    have notBlank := filled c inTool
    rw [blank] at notBlank
    cases notBlank
  · have word : beforeBlank (callHeading tool params) = tool ++ ":" := by
      rw [heading]
      exact beforeBlank_eq _ shown ' ' (filled_colon tool filled) (by decide)
    have ended : (beforeBlank (callHeading tool params)).getLast? = some (CodePoint.char ':') := by
      rw [word, List.getLast?_append]
      rfl
    cases gap with
    | nil =>
      have loading : callHeading tool params =
          "---loading" ++ c :: (space ++ (".bash_profile" ++ rest)) := form
      rw [loading, beforeBlank_eq "---loading" _ c (by decide) blank] at ended
      cases ended
    | cons d gap =>
      have rule : callHeading tool params = "---" ++
          d :: (gap ++ ("loading" ++ (c :: space ++ (".bash_profile" ++ rest)))) := form
      rw [rule, beforeBlank_eq "---" _ d (by decide) (gapBlank d List.mem_cons_self)] at ended
      cases ended

/-- A heading of a call that complains of a command has a tool that is named like
    a shell. -/
theorem tool_of_complaint (tool : Text) (params : Table Text)
    (filled : ∀ c ∈ tool, (!Text.isBlank c) = true)
    (complains : Line.complainsOfCommand (callHeading tool params) = true) :
    ∃ number rest, Line.Filled Text.isDigit number ∧ tool = "zsh:" ++ number ∧
      callHeading tool params = tool ++ (": command not found:" ++ rest) := by
  obtain ⟨number, rest, form, digits⟩ := (Line.complainsOfCommand_iff _).mp complains
  rcases callHeading_cases tool params with heading | ⟨_, _, shown, _, _, heading⟩
  · have blank : CodePoint.char ' ' ∈ tool := by
      rw [heading] at form
      rw [form]
      exact List.mem_append_right _ (List.mem_append_right _ (List.mem_append_left _ (by decide)))
    exact absurd (filled _ blank) (by decide)
  · have toolSpaces : Line.spaces (tool ++ ":") = 0 :=
      Line.spaces_of_inside _ _ (by decide) (filled_colon tool filled)
    have shellSpaces : Line.spaces ("zsh:" ++ number ++ ":") = 0 := by
      rw [Line.spaces_append, Line.spaces_append,
        Line.spaces_of_inside _ number (by decide) digits.2]
      decide
    have complaint : callHeading tool params =
        ("zsh:" ++ number ++ ":") ++ (" " ++ ("command not found:" ++ rest)) := by
      rw [form]
      simp only [List.append_assoc]
      rfl
    have word := congrArg Line.beforeSpace (heading.symm.trans complaint)
    rw [Line.beforeSpace_eq _ shown toolSpaces, Line.beforeSpace_eq _ _ shellSpaces] at word
    have shell : tool = "zsh:" ++ number := List.append_cancel_right word
    refine ⟨number, rest, digits, shell, ?_⟩
    rw [form, shell, List.append_assoc]

/-- The heading of a call is noise in these two ways and in no other. A heading does not begin
    like a profile, and the notice does not stand in it. -/
theorem isNoise_callHeading (tool : Text) (params : Table Text)
    (filled : Line.Filled (!Text.isBlank ·) tool) (plain : Plain params) :
    Line.isNoise (callHeading tool params) = true ↔
      Masquerades tool (callHeading tool params) := by
  obtain ⟨someCharacter, notBlank⟩ := filled
  obtain ⟨c, others, rfl⟩ := List.exists_cons_of_ne_nil someCharacter
  obtain ⟨tail, headed⟩ : ∃ tail, callHeading (c :: others) params = (c :: others) ++ tail := by
    rcases callHeading_cases (c :: others) params with heading | ⟨_, _, shown, _, _, heading⟩
    · exact ⟨[], by rw [heading, List.append_nil]⟩
    · exact ⟨_, heading.trans (List.append_assoc _ _ _)⟩
  have loud : Text.allBlank (callHeading (c :: others) params) = false := by
    have first : Text.isBlank c = false := by simpa using notBlank c List.mem_cons_self
    rw [headed]
    exact Line.allBlank_append _ tail (by simp [Text.allBlank, first])
  rw [Line.isNoise_iff _ loud]
  constructor
  · rintro (cheer | profile | complaint | included)
    · obtain ⟨rest, form⟩ := (Text.startsWith_iff _ _).mp cheer
      rw [headed] at form
      have first : c = .char '🎊' := (List.cons.inj form).1
      exact Or.inl ((Text.startsWith_iff _ _).mpr ⟨others, by rw [first]; rfl⟩)
    · rw [callHeading_loadsProfile _ params notBlank] at profile
      cases profile
    · exact Or.inr (tool_of_complaint _ params notBlank complaint)
    · rw [callHeading_silent _ params notBlank plain] at included
      cases included
  · rintro (cheer | ⟨number, rest, digits, shell, heading⟩)
    · obtain ⟨rest, form⟩ := (Text.startsWith_iff _ _).mp cheer
      refine Or.inl ((Text.startsWith_iff _ _).mpr ⟨rest ++ tail, ?_⟩)
      rw [headed, form, List.append_assoc]
    · refine Or.inr (Or.inr (Or.inl ((Line.complainsOfCommand_iff _).mpr
        ⟨number, rest, ?_, digits⟩)))
      rw [heading, shell, List.append_assoc]

end AgentRuns
