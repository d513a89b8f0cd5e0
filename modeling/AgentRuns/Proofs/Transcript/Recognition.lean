import AgentRuns.Proofs.Text.Classes
import AgentRuns.Transcript.Line
import Mathlib.Data.List.Basic
import Mathlib.Data.List.TakeDrop
import Mathlib.Data.List.TakeWhile

/-!
# What a recognized line looks like

Every recognizer is met by one form of lines and by no other: the parts that it
carries stand between fixed words, and one line feed may follow. A part ends
where its class ends, so a form is read in one way only.

A line is of at most one kind. Its leading word characters and what stands
behind them tell which. Lines that begin an item are therefore no parameters,
no session details, and open no block.
-/

namespace AgentRuns

namespace Line

/-- A part of a line: it is not empty, and all its characters are of one class. -/
def Filled (kind : CodePoint → Bool) (part : Text) : Prop :=
  part ≠ [] ∧ ∀ c ∈ part, kind c = true

/-- A leading part ends where its class ends. It is not empty, and it is as long as possible. -/
theorem some?_eq_some (kind : CodePoint → Bool) (text part rest : Text) :
    some? kind text = some (part, rest) ↔
      text = part ++ rest ∧ Filled kind part ∧ Outside kind rest := by
  unfold some?
  constructor
  · intro found
    rw [List.span_eq_takeWhile_dropWhile] at found
    dsimp only at found
    split at found
    · cases found
    · rename_i someCharacter
      obtain ⟨rfl, rfl⟩ := Prod.mk.inj (Option.some.inj found)
      refine ⟨List.takeWhile_append_dropWhile.symm, ⟨by simpa using someCharacter, ?_⟩, ?_⟩
      · intro c member
        exact List.mem_takeWhile_imp member
      · intro c first
        have stopped := List.head?_dropWhile_not kind text
        simpa [first] using stopped
  · rintro ⟨rfl, ⟨someCharacter, inside⟩, outside⟩
    rw [span_inside kind part rest inside outside]
    simp [someCharacter]

/-- A text that begins with a fixed opening is outside the classes that its
    first character is outside of. -/
theorem outside_of_opening (kind : CodePoint → Bool) (c : CodePoint) (opening rest : Text)
    (first : opening.head? = some c) (not : kind c = false) : Outside kind (opening ++ rest) := by
  intro other found
  rw [List.head?_append, first] at found
  cases found
  exact not

/-- The end of a line is outside every class without the line feed. -/
theorem outside_of_ends (kind : CodePoint → Bool) (rest : Text) (closes : ends rest = true)
    (not : kind '\n' = false) : Outside kind rest := by
  intro c first
  simp only [ends, Bool.or_eq_true, List.isEmpty_iff, beq_iff_eq] at closes
  rcases closes with rfl | rfl
  · cases first
  · cases first
    exact not

/-- The remainder of a line is what stands before its end, and it is not empty. -/
theorem remainder?_eq_some (text part : Text) :
    remainder? text = some part ↔
      ∃ rest, text = part ++ rest ∧ Filled (fun c => c != '\n') part ∧ ends rest = true := by
  simp only [remainder?, Option.bind_eq_bind, Option.bind_eq_some_iff, Prod.exists, some?_eq_some]
  constructor
  · rintro ⟨_, rest, ⟨rfl, filled, _⟩, found⟩
    split at found
    · rename_i closes
      cases found
      exact ⟨rest, rfl, filled, closes⟩
    · cases found
  · rintro ⟨rest, rfl, filled, closes⟩
    refine ⟨part, rest, ⟨rfl, filled, outside_of_ends _ rest closes (by decide)⟩, ?_⟩
    simp [closes]

/-- The form of a tool header. Its parts are told apart by the blanks between them. -/
theorem toolHeader?_eq_some (line tool extension : Text) :
    toolHeader? line = some (tool, extension) ↔ ∃ rule rest,
      line = "─── " ++ (tool ++ (" | " ++ (extension ++ (" " ++ (rule ++ rest))))) ∧
      Filled (!Text.isBlank ·) tool ∧ Filled (!Text.isBlank ·) extension ∧
      Filled (fun c => c == '─') rule ∧ ends rest = true := by
  simp only [toolHeader?, Option.bind_eq_bind, Option.bind_eq_some_iff, Prod.exists,
    some?_eq_some, Text.after?_eq_some]
  constructor
  · rintro ⟨_, rfl, _, _, ⟨rfl, toolFilled, _⟩, _, rfl, _, _, ⟨rfl, extensionFilled, _⟩,
      _, rfl, rule, rest, ⟨rfl, ruleFilled, _⟩, found⟩
    split at found
    · rename_i closes
      cases found
      exact ⟨rule, rest, rfl, toolFilled, extensionFilled, ruleFilled, closes⟩
    · cases found
  · rintro ⟨rule, rest, rfl, toolFilled, extensionFilled, ruleFilled, closes⟩
    refine ⟨_, rfl, tool, _, ⟨rfl, toolFilled, ?_⟩, _, rfl, extension, _,
      ⟨rfl, extensionFilled, ?_⟩, _, rfl, rule, rest, ⟨rfl, ruleFilled, ?_⟩, by simp [closes]⟩
    · exact outside_of_opening _ ' ' _ _ rfl (by decide)
    · exact outside_of_opening _ ' ' _ _ rfl (by decide)
    · exact outside_of_ends _ rest closes (by decide)

/-- The form of a command line. The command goes on to the end of the line. -/
theorem command?_eq_some (line command : Text) :
    command? line = some command ↔ ∃ rest,
      line = "$ " ++ (command ++ rest) ∧ Filled (fun c => c != '\n') command ∧
      ends rest = true := by
  simp only [command?, Option.bind_eq_bind, Option.bind_eq_some_iff, Text.after?_eq_some,
    remainder?_eq_some]
  constructor
  · rintro ⟨_, rfl, rest, rfl, filled, closes⟩
    exact ⟨rest, rfl, filled, closes⟩
  · rintro ⟨rest, rfl, filled, closes⟩
    exact ⟨_, rfl, rest, rfl, filled, closes⟩

/-- The form of a session line. The model goes on to the end of the line. -/
theorem session?_eq_some (line provider model : Text) :
    session? line = some (provider, model) ↔ ∃ rest,
      line = "starting session | provider: " ++ (provider ++ (" model: " ++ (model ++ rest))) ∧
      Filled (!Text.isBlank ·) provider ∧ Filled (fun c => c != '\n') model ∧
      ends rest = true := by
  simp only [session?, Option.bind_eq_bind, Option.bind_eq_some_iff, Prod.exists,
    some?_eq_some, Text.after?_eq_some, remainder?_eq_some, Option.pure_def, Option.some.injEq,
    Prod.mk.injEq]
  constructor
  · rintro ⟨_, rfl, _, _, ⟨rfl, providerFilled, _⟩, _, rfl, _, ⟨rest, rfl, modelFilled, closes⟩,
      rfl, rfl⟩
    exact ⟨rest, rfl, providerFilled, modelFilled, closes⟩
  · rintro ⟨rest, rfl, providerFilled, modelFilled, closes⟩
    refine ⟨_, rfl, provider, _, ⟨rfl, providerFilled, ?_⟩, _, rfl, model,
      ⟨rest, rfl, modelFilled, closes⟩, rfl, rfl⟩
    exact outside_of_opening _ ' ' _ _ rfl (by decide)

/-- The form of a run header. The id goes on to the end of the line. -/
theorem runHeader?_eq_some (line id : Text) :
    runHeader? line = some id ↔ ∃ name rest,
      line = name ++ (" run " ++ (id ++ rest)) ∧ Filled Text.isWord name ∧
      Filled (fun c => Text.isWord c || c == '-') id ∧ ends rest = true := by
  simp only [runHeader?, Option.bind_eq_bind, Option.bind_eq_some_iff, Prod.exists,
    some?_eq_some, Text.after?_eq_some]
  constructor
  · rintro ⟨name, _, ⟨rfl, nameFilled, _⟩, _, rfl, _, rest, ⟨rfl, idFilled, _⟩, found⟩
    split at found
    · rename_i closes
      cases found
      exact ⟨name, rest, rfl, nameFilled, idFilled, closes⟩
    · cases found
  · rintro ⟨name, rest, rfl, nameFilled, idFilled, closes⟩
    refine ⟨name, _, ⟨rfl, nameFilled, ?_⟩, _, rfl, id, rest, ⟨rfl, idFilled, ?_⟩,
      by simp [closes]⟩
    · exact outside_of_opening _ ' ' _ _ rfl (by decide)
    · exact outside_of_ends _ rest closes (by decide)

/-- The form of a parameter. The value goes on to the end of the line. -/
theorem parameter?_eq_some (line key value : Text) :
    parameter? line = some (key, value) ↔ ∃ rest,
      line = key ++ (": " ++ (value ++ rest)) ∧
      Filled (fun c => c.within 'a' 'z' || c == '_') key ∧
      Filled (fun c => c != '\n') value ∧ ends rest = true := by
  simp only [parameter?, Option.bind_eq_bind, Option.bind_eq_some_iff, Prod.exists,
    some?_eq_some, Text.after?_eq_some, remainder?_eq_some, Option.pure_def, Option.some.injEq,
    Prod.mk.injEq]
  constructor
  · rintro ⟨_, _, ⟨rfl, keyFilled, _⟩, _, rfl, _, ⟨rest, rfl, valueFilled, closes⟩, rfl, rfl⟩
    exact ⟨rest, rfl, keyFilled, valueFilled, closes⟩
  · rintro ⟨rest, rfl, keyFilled, valueFilled, closes⟩
    refine ⟨key, _, ⟨rfl, keyFilled, ?_⟩, _, rfl, value, ⟨rest, rfl, valueFilled, closes⟩,
      rfl, rfl⟩
    exact outside_of_opening _ ':' _ _ rfl (by decide)

/-- A detail of a session is indented. No other kind of line begins with a blank. -/
theorem blank_of_sessionDetail? (line label : Text) (detail : sessionDetail? line = some label) :
    ∃ c rest, line = c :: rest ∧ Text.isBlank c = true := by
  simp only [sessionDetail?, Option.bind_eq_bind, Option.bind_eq_some_iff, Prod.exists,
    some?_eq_some] at detail
  obtain ⟨indent, rest, ⟨rfl, ⟨someBlank, blank⟩, _⟩, _⟩ := detail
  cases indent with
  | nil => exact absurd rfl someBlank
  | cons c indent => exact ⟨c, indent ++ rest, rfl, blank c List.mem_cons_self⟩

/-- The form of a line that opens a block. Anything may stand behind the brace. -/
theorem opensBlock_form (line : Line) (opens : opensBlock line = true) :
    ∃ gap rest, line = "Annotated" ++ (gap ++ ("\x7b" ++ rest)) ∧
      ∀ c ∈ gap, Text.isBlank c = true := by
  unfold opensBlock at opens
  split at opens
  · rename_i rest found
    rw [Text.after?_eq_some] at found
    obtain ⟨behind, brace⟩ := List.isPrefixOf_iff_prefix.mp opens
    refine ⟨rest.takeWhile Text.isBlank, behind, ?_, fun c => List.mem_takeWhile_imp⟩
    rw [found, brace, Text.stripStart, List.takeWhile_append_dropWhile]
  · cases opens

/-- The kinds of lines that are told apart by their start. -/
inductive Kind
  | header
  | command
  | session
  | run
  | parameter
  | detail
  | opening
  deriving DecidableEq

/-- Whether the line is of a kind, by the kind's recognizer. -/
def isOf (line : Line) : Kind → Bool
  | .header => isToolHeader line
  | .command => (command? line).isSome
  | .session => (session? line).isSome
  | .run => (runHeader? line).isSome
  | .parameter => (parameter? line).isSome
  | .detail => (sessionDetail? line).isSome
  | .opening => opensBlock line

/-- The kind that a line can be of, told by its leading word characters and by
    what stands behind them. -/
def kindBehind : Text × Text → Kind
  | ([], .char '─' :: _) => .header
  | ([], .char '$' :: _) => .command
  | ([], _) => .detail
  | (_, .char ':' :: _) => .parameter
  | (_, .char ' ' :: .char 's' :: _) => .session
  | (_, .char ' ' :: .char 'r' :: _) => .run
  | (_, _) => .opening

/-- A line that begins with a blank can be a detail of a session only. -/
theorem kindBehind_blank (c : CodePoint) (rest : Text) (blank : Text.isBlank c = true) :
    kindBehind ([], c :: rest) = .detail := by
  have notRule : c ≠ '─' := fun same => absurd (same ▸ blank) (by decide)
  have notSign : c ≠ '$' := fun same => absurd (same ▸ blank) (by decide)
  unfold kindBehind
  split
  all_goals simp_all

/-- A line whose first word is followed by a blank, and not by what tells a session or a run,
    can open a block only. -/
theorem kindBehind_gap (first c : CodePoint) (word rest : Text) (blank : Text.isBlank c = true)
    (next : Outside (fun d => d == 's' || d == 'r') rest) :
    kindBehind (first :: word, c :: rest) = .opening := by
  have notColon : c ≠ ':' := fun same => absurd (same ▸ blank) (by decide)
  unfold kindBehind
  split
  all_goals simp_all [Outside]

/-- The leading word characters tell the kind of a line in every form. There is one case for
    each kind. -/
theorem kindBehind_eq (line : Line) (kind : Kind) (is : line.isOf kind = true) :
    kindBehind (line.span Text.isWord) = kind := by
  have split (word rest : Text) (inside : ∀ c ∈ word, Text.isWord c = true)
      (outside : Outside Text.isWord rest) :
      kindBehind ((word ++ rest).span Text.isWord) = kindBehind (word, rest) := by
    rw [span_inside Text.isWord word rest inside outside]
  cases kind with
  | header =>
    obtain ⟨⟨tool, extension⟩, found⟩ := Option.isSome_iff_exists.mp is
    obtain ⟨rule, rest, rfl, _⟩ := (toolHeader?_eq_some line tool extension).mp found
    exact split [] _ (by simp)
      (outside_of_opening Text.isWord '─' "─── " _ rfl (by decide +kernel))
  | command =>
    obtain ⟨command, found⟩ := Option.isSome_iff_exists.mp is
    obtain ⟨rest, rfl, _⟩ := (command?_eq_some line command).mp found
    exact split [] _ (by simp)
      (outside_of_opening Text.isWord '$' "$ " _ rfl (by decide))
  | session =>
    obtain ⟨⟨provider, model⟩, found⟩ := Option.isSome_iff_exists.mp is
    obtain ⟨rest, rfl, _⟩ := (session?_eq_some line provider model).mp found
    exact split "starting" (" session | provider: " ++ _) (by decide)
      (outside_of_opening _ ' ' _ _ rfl (by decide))
  | run =>
    obtain ⟨id, found⟩ := Option.isSome_iff_exists.mp is
    obtain ⟨name, rest, rfl, ⟨someName, word⟩, _⟩ := (runHeader?_eq_some line id).mp found
    rw [split name _ word (outside_of_opening _ ' ' _ _ rfl (by decide))]
    cases name with
    | nil => exact absurd rfl someName
    | cons c name => rfl
  | parameter =>
    obtain ⟨⟨key, value⟩, found⟩ := Option.isSome_iff_exists.mp is
    obtain ⟨rest, rfl, ⟨someKey, letters⟩, _⟩ := (parameter?_eq_some line key value).mp found
    rw [split key _ (fun c member => Text.isWord_of_key c (letters c member))
      (outside_of_opening _ ':' _ _ rfl (by decide))]
    cases key with
    | nil => exact absurd rfl someKey
    | cons c key => rfl
  | detail =>
    obtain ⟨label, found⟩ := Option.isSome_iff_exists.mp is
    obtain ⟨c, rest, rfl, blank⟩ := blank_of_sessionDetail? line label found
    have outside : Outside Text.isWord (c :: rest) := by
      intro other first
      cases first
      exact Text.isWord_of_isBlank c blank
    exact (split [] (c :: rest) (by simp) outside).trans (kindBehind_blank c rest blank)
  | opening =>
    obtain ⟨gap, rest, rfl, blank⟩ := opensBlock_form line is
    have outside : Outside Text.isWord (gap ++ ("\x7b" ++ rest)) := by
      cases gap with
      | nil => exact outside_of_opening Text.isWord '{' "\x7b" rest rfl (by decide)
      | cons c gap =>
        intro other first
        cases first
        exact Text.isWord_of_isBlank c (blank c List.mem_cons_self)
    rw [split "Annotated" _ (by decide) outside]
    cases gap with
    | nil => rfl
    | cons c gap =>
      have blanks : ∀ d ∈ gap, Text.isBlank d = true := fun d member =>
        blank d (List.mem_cons_of_mem c member)
      have next : Outside (fun d => d == 's' || d == 'r') (gap ++ ("\x7b" ++ rest)) := by
        cases gap with
        | nil => exact outside_of_opening _ '{' "\x7b" rest rfl (by decide)
        | cons d gap =>
          intro other first
          cases first
          have blankToo : Text.isBlank d = true := blanks d List.mem_cons_self
          have notSession : d ≠ 's' := fun same => absurd (same ▸ blankToo) (by decide)
          have notRun : d ≠ 'r' := fun same => absurd (same ▸ blankToo) (by decide)
          simp [notSession, notRun]
      exact kindBehind_gap 'A' c "nnotated" _ (blank c List.mem_cons_self) next

/-- A line is of one kind at most. This is why the order of the tests is free. -/
theorem kind_unique (line : Line) (left right : Kind) (isLeft : line.isOf left = true)
    (isRight : line.isOf right = true) : left = right :=
  (kindBehind_eq line left isLeft).symm.trans (kindBehind_eq line right isRight)

/-- A line of one kind is of no other. -/
theorem isOf_other (line : Line) (kind other : Kind) (is : line.isOf kind = true)
    (different : kind ≠ other) : line.isOf other = false := by
  rw [Bool.eq_false_iff]
  intro isOther
  exact different (line.kind_unique kind other is isOther)

/-- A line that begins an item is a header, a command, a session line or a run
    header. -/
theorem kind_of_isStructural (line : Line) (structural : line.isStructural = true) :
    ∃ kind, line.isOf kind = true ∧ kind ≠ .parameter ∧ kind ≠ .detail ∧ kind ≠ .opening := by
  simp only [isStructural, Bool.or_eq_true] at structural
  rcases structural with ((header | command) | session) | run
  · exact ⟨.header, header, by decide⟩
  · exact ⟨.command, command, by decide⟩
  · exact ⟨.session, session, by decide⟩
  · exact ⟨.run, run, by decide⟩

/-- Parameters, session details and openings of blocks begin no item. So they do not end one
    either. -/
theorem isStructural_of_isOf (line : Line) (kind : Kind) (is : line.isOf kind = true)
    (inner : kind = .parameter ∨ kind = .detail ∨ kind = .opening) :
    line.isStructural = false := by
  rw [Bool.eq_false_iff]
  intro structural
  obtain ⟨other, isOther, notParameter, notDetail, notOpening⟩ :=
    kind_of_isStructural line structural
  have same : other = kind := line.kind_unique other kind isOther is
  rcases inner with rfl | rfl | rfl
  · exact notParameter same
  · exact notDetail same
  · exact notOpening same

/-- An opening of a block is no parameter. So a block below parameters is found as such. -/
theorem parameter?_of_opensBlock (line : Line) (opens : line.opensBlock = true) :
    line.parameter? = none := by
  simpa [isOf] using line.isOf_other .opening .parameter opens (by decide)

end Line

/-- A part that is included stands between what is before and what is behind. -/
theorem Text.form_of_includes (text part : Text) (found : text.includes part = true) :
    ∃ before behind, text = before ++ (part ++ behind) := by
  induction text with
  | nil =>
    obtain ⟨behind, found⟩ := Option.isSome_iff_exists.mp found
    exact ⟨[], behind, (List.isPrefixOf?_eq_some_iff_append_eq.mp found).symm⟩
  | cons c rest inductionHypothesis =>
    cases here : part.isPrefixOf? (c :: rest) with
    | some behind =>
      exact ⟨[], behind, (List.isPrefixOf?_eq_some_iff_append_eq.mp here).symm⟩
    | none =>
      have later : Text.includes rest part = true := by
        simpa [Text.includes, Text.afterFirst?, here] using found
      obtain ⟨before, behind, form⟩ := inductionHypothesis later
      exact ⟨c :: before, behind, congrArg (c :: ·) form⟩

namespace Line

/-- The number of spaces. -/
def spaces (text : Text) : Nat := text.count (.char ' ')

/-- The spaces of a text are those of its parts. -/
theorem spaces_append (left right : Text) : spaces (left ++ right) = spaces left + spaces right :=
  List.count_append

/-- A part of a class without the space has no spaces. -/
theorem spaces_of_inside (kind : CodePoint → Bool) (part : Text) (not : kind ' ' = false)
    (inside : ∀ c ∈ part, kind c = true) : spaces part = 0 :=
  List.count_eq_zero.mpr fun member => by simp [inside _ member] at not

/-- The text before its first space. -/
def beforeSpace (text : Text) : Text := text.takeWhile fun c => c != ' '

/-- The text before its first space is the part before it, if that has none. -/
theorem beforeSpace_eq (before behind : Text) (inside : spaces before = 0) :
    beforeSpace (before ++ (" " ++ behind)) = before := by
  have different : ∀ c ∈ before, (c != .char ' ') = true := by
    intro c member
    have absent : CodePoint.char ' ' ∉ before := List.count_eq_zero.mp inside
    rw [bne_iff_ne]
    rintro rfl
    exact absent member
  rw [beforeSpace, List.takeWhile_append_of_pos different]
  exact List.append_nil before

/-- A tool header has four spaces, as many as the notice of loaded secrets. A
    notice in a header would therefore begin in the header's first word, which
    is a rule and ends with no letter. -/
theorem notice_not_in_header (line tool extension : Text)
    (header : toolHeader? line = some (tool, extension)) :
    line.includes "All secrets loaded from cache" = false := by
  obtain ⟨rule, rest, form, ⟨_, toolFilled⟩, ⟨_, extensionFilled⟩, ⟨_, ruleFilled⟩, closes⟩ :=
    (toolHeader?_eq_some line tool extension).mp header
  rw [Bool.eq_false_iff]
  intro found
  obtain ⟨before, behind, notice⟩ := Text.form_of_includes line _ found
  have restSpaces : spaces rest = 0 := by
    simp only [ends, Bool.or_eq_true, List.isEmpty_iff, beq_iff_eq] at closes
    rcases closes with rfl | rfl <;> decide
  have headerSpaces : spaces line = 4 := by
    rw [form]
    simp only [spaces_append, spaces_of_inside _ tool (by decide) toolFilled,
      spaces_of_inside _ extension (by decide) extensionFilled,
      spaces_of_inside _ rule (by decide) ruleFilled, restSpaces]
    decide
  have beforeSpaces : spaces before = 0 := by
    have noticeSpaces : spaces "All secrets loaded from cache" = 4 := by decide
    rw [notice, spaces_append, spaces_append, noticeSpaces] at headerSpaces
    omega
  have first : beforeSpace line = "───" := by
    rw [form]
    exact beforeSpace_eq "───" _ (by decide)
  have second : beforeSpace line = before ++ "All" := by
    have split : line = (before ++ "All") ++ (" " ++ ("secrets loaded from cache" ++ behind)) := by
      rw [notice, List.append_assoc]
      rfl
    have inside : spaces (before ++ "All") = 0 := by
      rw [spaces_append, beforeSpaces]
      decide
    rw [split]
    exact beforeSpace_eq (before ++ "All") _ inside
  have last : some (CodePoint.char '─') = some (CodePoint.char 'l') := by
    have same := congrArg List.getLast? (first.symm.trans second)
    rwa [List.getLast?_append] at same
  exact absurd last (by decide)

/-- A tool header is never noise. Its rule is none of the openings that noise has, and the
    notice does not stand in it. -/
theorem isNoise_of_isToolHeader (line : Line) (header : line.isToolHeader = true) :
    line.isNoise = false := by
  obtain ⟨⟨tool, extension⟩, found⟩ := Option.isSome_iff_exists.mp header
  have noNotice := notice_not_in_header line tool extension found
  obtain ⟨rule, rest, rfl, _⟩ := (toolHeader?_eq_some line tool extension).mp found
  simp only [isNoise, noNotice, Bool.or_false, Bool.or_eq_false_iff]
  exact ⟨⟨⟨rfl, rfl⟩, rfl⟩, rfl⟩

end Line

end AgentRuns
