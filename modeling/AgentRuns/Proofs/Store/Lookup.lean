import AgentRuns.Proofs.Text.Classes
import AgentRuns.Proofs.Text.Lines
import AgentRuns.Store.Query
import Mathlib.Data.List.Forall2
import Mathlib.Data.List.Nodup

/-!
# Finding a run by its pasted id

People paste an id with whatever stood around it: a link, a mention, quotes and
brackets, other words of hexadecimal digits. The key is the leftmost full id in
what they wrote. A full id begins with eight digits before its first hyphen, so
none can begin before the pasted one as long as no hyphen stands there; what
stands behind the pasted id is not looked at. Stripping takes blanks from both
ends and none from an id.

The letter case of an id does not matter. A digit and its capital are both
digits, and the small form of either is the digit itself.
-/

namespace AgentRuns

namespace Identifier

/-! ## Full ids and their letter case -/

/-- The mark between the groups of an id. -/
def hyphen : CodePoint := '-'

/-- The hexadecimal digits in small letters. -/
def smallDigits : Text := "0123456789abcdef"

/-- A full id in small letters: groups of eight, four, four, four and twelve
    hexadecimal digits, with hyphens between them. -/
def Canonical (id : Text) : Prop :=
  ∃ groups : List Text, id = Text.join "-" groups ∧
    groups.map List.length = [8, 4, 4, 4, 12] ∧ ∀ group ∈ groups, ∀ c ∈ group, c ∈ smallDigits

/-- A text in another letter case: every character stands as it was, or as its
    capital. -/
def Recased (text written : Text) : Prop :=
  List.Forall₂ (fun c drawn => drawn = c ∨ [drawn] = Text.upperPoint c) text written

instance (text written : Text) : Decidable (Recased text written) :=
  inferInstanceAs (Decidable (List.Forall₂ _ text written))

/-- The parts of a full id. Five groups of small digits stand between four hyphens. -/
theorem Canonical.parts {id : Text} (canonical : Canonical id) :
    ∃ first second third fourth fifth : Text,
      id = first ++ hyphen :: (second ++ hyphen :: (third ++ hyphen ::
        (fourth ++ hyphen :: fifth))) ∧
      (first.length = 8 ∧ second.length = 4 ∧ third.length = 4 ∧ fourth.length = 4 ∧
        fifth.length = 12) ∧
      ∀ group ∈ [first, second, third, fourth, fifth], ∀ c ∈ group, c ∈ smallDigits := by
  obtain ⟨groups, rfl, lengths, digits⟩ := canonical
  simp only [List.map_eq_cons_iff, List.map_eq_nil_iff] at lengths
  obtain ⟨first, _, rfl, firstLong, second, _, rfl, secondLong, third, _, rfl, thirdLong,
    fourth, _, rfl, fourthLong, fifth, _, rfl, fifthLong, rfl⟩ := lengths
  refine ⟨first, second, third, fourth, fifth, ?_,
    ⟨firstLong, secondLong, thirdLong, fourthLong, fifthLong⟩, digits⟩
  simp [Text.join, List.intercalate_cons_cons, Text.ofString, Text.ofChars, hyphen]

/-- A full id is not empty, since it has hyphens. -/
theorem Canonical.ne_nil {id : Text} (canonical : Canonical id) : id ≠ [] := by
  obtain ⟨first, second, third, fourth, fifth, rfl, _⟩ := canonical.parts
  simp

/-- An id is made of digits and hyphens. These are seventeen characters, few enough to look at
    each. -/
theorem Canonical.characters {id : Text} (canonical : Canonical id) :
    ∀ c ∈ id, c ∈ hyphen :: smallDigits := by
  obtain ⟨first, second, third, fourth, fifth, rfl, _, digits⟩ := canonical.parts
  simp only [List.forall_mem_cons] at digits
  obtain ⟨firstDigits, secondDigits, thirdDigits, fourthDigits, fifthDigits, _⟩ := digits
  intro c member
  simp only [List.mem_append, List.mem_cons] at member ⊢
  grind

/-- A character of an id and how it may be written. -/
structure Draws (c drawn : CodePoint) : Prop where
  small : Text.lowerPoint drawn = [c]
  noSigma : drawn ≠ 'Σ'
  visible : Text.isBlank drawn = false
  digit : c ∈ smallDigits → isHex drawn = true
  hyphen : c = hyphen → drawn = hyphen

/-- The characters of an id and their capitals are few, and each is looked at. A hyphen is its
    own capital. -/
theorem draws_of_recased (c drawn : CodePoint) (ofId : c ∈ hyphen :: smallDigits)
    (recased : drawn = c ∨ [drawn] = Text.upperPoint c) : Draws c drawn := by
  have all : ∀ c ∈ hyphen :: smallDigits, ∀ drawn ∈ c :: Text.upperPoint c,
      Text.lowerPoint drawn = [c] ∧ drawn ≠ 'Σ' ∧ Text.isBlank drawn = false ∧
        (c ∈ smallDigits → isHex drawn = true) ∧ (c = hyphen → drawn = hyphen) := by
    decide +kernel
  have listed : drawn ∈ c :: Text.upperPoint c := by
    rcases recased with same | capital
    · simp [same]
    · simp [← capital]
  obtain ⟨small, noSigma, visible, digit, same⟩ := all c ofId drawn listed
  exact ⟨small, noSigma, visible, digit, same⟩

/-- An id is drawn character by character in any letter case. Each capital is a single
    character. -/
theorem Canonical.draws {id written : Text} (canonical : Canonical id)
    (recased : Recased id written) : List.Forall₂ Draws id written := by
  have both := (List.forall₂_and_left id written).mpr ⟨canonical.characters, recased⟩
  exact both.imp fun c drawn here => draws_of_recased c drawn here.1 here.2

/-- Every character that is drawn draws one. The two texts have their characters place by
    place. -/
theorem exists_draws (text written : Text) (drawn : List.Forall₂ Draws text written) :
    ∀ d ∈ written, ∃ c ∈ text, Draws c d := by
  induction drawn with
  | nil => simp
  | @cons c first others behind here _ inductionHypothesis =>
    intro d member
    rcases List.mem_cons.mp member with rfl | later
    · exact ⟨c, List.mem_cons_self, here⟩
    · obtain ⟨e, inside, draws⟩ := inductionHypothesis d later
      exact ⟨e, List.mem_cons_of_mem c inside, draws⟩

/-- The small form of an id in any letter case is the id. What stands before a character
    matters for none of these. -/
theorem lowerFrom_of_draws (id written : Text) (drawn : List.Forall₂ Draws id written)
    (before : Text) : Text.lowerFrom before written = id := by
  induction drawn generalizing before with
  | nil => rfl
  | cons draws _ inductionHypothesis =>
    simp [Text.lowerFrom, draws.noSigma, draws.small, inductionHypothesis]

/-- An id is cut at its first hyphen, in any letter case. The groups before and behind it are
    drawn by themselves. -/
theorem cut_of_draws (group rest written : Text)
    (drawn : List.Forall₂ Draws (group ++ hyphen :: rest) written) :
    ∃ part others, written = part ++ hyphen :: others ∧ List.Forall₂ Draws group part ∧
      List.Forall₂ Draws rest others := by
  induction group generalizing written with
  | nil =>
    cases drawn with
    | cons first behind =>
      rw [first.hyphen rfl]
      exact ⟨[], _, rfl, .nil, behind⟩
  | cons c group inductionHypothesis =>
    cases drawn with
    | cons first behind =>
      obtain ⟨part, others, rfl, inside, further⟩ := inductionHypothesis _ behind
      exact ⟨_ :: part, others, rfl, .cons first inside, further⟩

/-! ## The leftmost full id -/

/-- A group of an id is read up to its end. The count of digits ends the reading, whatever
    follows. -/
theorem hexDigits?_of_draws (count : Nat) (group part rest : Text) (long : group.length = count)
    (digits : ∀ c ∈ group, c ∈ smallDigits) (drawn : List.Forall₂ Draws group part) :
    hexDigits? count (part ++ rest) = some (part, rest) := by
  have sameLength : part.length = count := drawn.length_eq ▸ long
  have hex : part.all isHex = true := by
    rw [List.all_eq_true]
    intro d member
    obtain ⟨c, inside, draws⟩ := exists_draws group part drawn d member
    exact draws.digit (digits c inside)
  simp [hexDigits?, ← sameLength, hex]

/-- So is a group with the hyphen before it. All groups but the first are read this way. -/
theorem hyphenated?_of_draws (count : Nat) (group part rest : Text)
    (long : group.length = count) (digits : ∀ c ∈ group, c ∈ smallDigits)
    (drawn : List.Forall₂ Draws group part) :
    hyphenated? count (hyphen :: (part ++ rest)) = some (hyphen :: part, rest) := by
  have behind : Text.after? (hyphen :: (part ++ rest)) "-" = some (part ++ rest) :=
    (Text.after?_eq_some _ "-" _).mpr rfl
  simp only [hyphenated?, behind, Option.bind_eq_bind, Option.bind_some,
    hexDigits?_of_draws count group part rest long digits drawn]
  rfl

/-- An id in any letter case is a full id, whatever stands behind it. Its groups are read one
    behind the other. -/
theorem Canonical.fullId? {id written : Text} (canonical : Canonical id)
    (drawn : List.Forall₂ Draws id written) (after : Text) :
    Identifier.fullId? (written ++ after) = some written := by
  obtain ⟨first, second, third, fourth, fifth, rfl, lengths, digits⟩ := canonical.parts
  obtain ⟨firstLong, secondLong, thirdLong, fourthLong, fifthLong⟩ := lengths
  simp only [List.forall_mem_cons] at digits
  obtain ⟨firstDigits, secondDigits, thirdDigits, fourthDigits, fifthDigits, _⟩ := digits
  obtain ⟨one, _, rfl, oneDrawn, drawn⟩ := cut_of_draws first _ _ drawn
  obtain ⟨two, _, rfl, twoDrawn, drawn⟩ := cut_of_draws second _ _ drawn
  obtain ⟨three, _, rfl, threeDrawn, drawn⟩ := cut_of_draws third _ _ drawn
  obtain ⟨four, five, rfl, fourDrawn, fiveDrawn⟩ := cut_of_draws fourth _ _ drawn
  simp only [Identifier.fullId?, List.append_assoc, List.cons_append, Option.bind_eq_bind,
    Option.bind_some, hexDigits?_of_draws 8 first one _ firstLong firstDigits oneDrawn,
    hyphenated?_of_draws 4 second two _ secondLong secondDigits twoDrawn,
    hyphenated?_of_draws 4 third three _ thirdLong thirdDigits threeDrawn,
    hyphenated?_of_draws 4 fourth four _ fourthLong fourthDigits fourDrawn,
    hyphenated?_of_draws 12 fifth five _ fifthLong fifthDigits fiveDrawn]
  rfl

/-- What is read as a group of digits, and what follows it. The two make up the text. -/
theorem hexDigits?_split (count : Nat) (text part rest : Text)
    (read : hexDigits? count text = some (part, rest)) :
    text = part ++ rest ∧ part.length = count ∧ ∀ c ∈ part, isHex c = true := by
  unfold hexDigits? at read
  dsimp only at read
  split at read
  · rename_i both
    obtain ⟨long, hex⟩ := Bool.and_eq_true_iff.mp both
    obtain ⟨rfl, rfl⟩ := Prod.mk.inj (Option.some.inj read)
    exact ⟨(List.take_append_drop count text).symm, of_decide_eq_true long,
      List.all_eq_true.mp hex⟩
  · cases read

/-- What is read as a hyphen and a group of digits, and what follows it. The two make up the
    text. -/
theorem hyphenated?_split (count : Nat) (text part rest : Text)
    (read : hyphenated? count text = some (part, rest)) :
    ∃ group, text = hyphen :: (group ++ rest) ∧ group.length = count := by
  simp only [hyphenated?, Option.bind_eq_bind, Option.bind_eq_some_iff, Prod.exists] at read
  obtain ⟨behind, hyphened, group, others, begun, same⟩ := read
  obtain ⟨_, rfl⟩ := Prod.mk.inj (Option.some.inj same)
  obtain ⟨rfl, long, _⟩ := hexDigits?_split count behind group others begun
  exact ⟨group, (Text.after?_eq_some text "-" _).mp hyphened, long⟩

/-- A full id has its first hyphen behind eight digits. So a text whose hyphen stands
    elsewhere does not begin with one. -/
theorem idxOf_hyphen (text id : Text) (found : Identifier.fullId? text = some id) :
    text.idxOf hyphen = 8 := by
  simp only [Identifier.fullId?, Option.bind_eq_bind, Option.bind_eq_some_iff,
    Prod.exists] at found
  obtain ⟨part, rest, begun, second, others, hyphened, _⟩ := found
  obtain ⟨rfl, long, hex⟩ := hexDigits?_split 8 text part rest begun
  obtain ⟨group, rfl, _⟩ := hyphenated?_split 4 rest second others hyphened
  have noHyphen : hyphen ∉ part := fun inside => absurd (hex hyphen inside) (by decide)
  rw [List.idxOf_append_of_notMem noHyphen, List.idxOf_cons_self, long]

/-- What is found behind a text is the leftmost one if nothing is found before. The induction
    is on the text before it. -/
theorem leftmost?_behind (here? : Text → Option Text) (before text found : Text)
    (nothing : ∀ c rest, c :: rest <:+ before → here? (c :: rest ++ text) = none)
    (here : here? text = some found) : leftmost? here? (before ++ text) = some found := by
  induction before with
  | nil =>
    cases text with
    | nil => exact here
    | cons c rest => simp [leftmost?, here]
  | cons c before inductionHypothesis =>
    have none := nothing c before (List.suffix_refl _)
    have later := inductionHypothesis fun d rest inside =>
      nothing d rest (inside.trans (List.suffix_cons c before))
    rw [List.cons_append] at none ⊢
    rw [leftmost?, none, Option.none_or, later]

/-- The key of a pasted id is the id, as long as no hyphen stands before it. A full id that
    begins earlier would have to take in the first hyphen of this one at the same place. -/
theorem key_of_pasted (id written before after : Text) (canonical : Canonical id)
    (recased : Recased id written) (unhyphened : hyphen ∉ before) :
    key (before ++ (written ++ after)) = id := by
  have drawn := canonical.draws recased
  have visible : ∀ d ∈ written, Text.isBlank d = false := by
    intro d member
    obtain ⟨c, _, draws⟩ := exists_draws id written drawn d member
    exact draws.visible
  have someCharacter : written ≠ [] := by
    rintro rfl
    exact canonical.ne_nil (List.forall₂_nil_right_iff.mp drawn)
  have whole := canonical.fullId? drawn (Text.stripEnd after)
  have leftmost : leftmost? fullId?
      (Text.stripStart before ++ (written ++ Text.stripEnd after)) = some written := by
    apply leftmost?_behind
    · intro c rest inside
      -- The first hyphen stands too far behind for an id that begins earlier.
      rw [Option.eq_none_iff_forall_ne_some]
      intro other found
      have absent : hyphen ∉ c :: rest := fun member => unhyphened
        ((List.dropWhile_suffix Text.isBlank).mem (inside.mem member))
      have place := idxOf_hyphen _ other found
      rw [List.idxOf_append_of_notMem absent, idxOf_hyphen _ written whole,
        List.length_cons] at place
      omega
    · exact whole
  have tight := Text.tight_of_visible written someCharacter visible
  rw [key, Text.strip_around before written after tight, leftmost]
  exact lowerFrom_of_draws id written drawn []

end Identifier

namespace Store

/-- Among runs of distinct ids every run is the one of its id. A lookup takes the first run,
    and there is only one. -/
theorem get?_of_distinct (runs : List Run) (distinct : (runs.map Run.id).Nodup) (run : Run)
    (stored : run ∈ runs) : get? runs run.id = some run := by
  have found : (get? runs run.id).isSome = true := by
    simp only [get?, List.find?_isSome]
    exact ⟨run, stored, beq_self_eq_true run.id⟩
  obtain ⟨first, here⟩ := Option.isSome_iff_exists.mp found
  have same : first.id = run.id := by simpa using List.find?_some here
  rw [here, List.inj_on_of_nodup_map distinct (List.mem_of_find?_eq_some here) stored same]

/-- A run is found by its pasted id, in any letter case and whatever stands around
    it, as long as no hyphen stands before it. -/
theorem pasted_id_finds_its_run (runs : List Run) (distinct : (runs.map Run.id).Nodup)
    (canonical : ∀ run ∈ runs, Identifier.Canonical run.id) (run : Run) (stored : run ∈ runs)
    (written before after : Text) (recased : Identifier.Recased run.id written)
    (unhyphened : Identifier.hyphen ∉ before) :
    find? runs (before ++ written ++ after) = some run := by
  have key : Identifier.key (before ++ written ++ after) = run.id := by
    rw [List.append_assoc]
    exact Identifier.key_of_pasted run.id written before after (canonical run stored) recased
      unhyphened
  have someId : run.id.isEmpty = false :=
    List.isEmpty_eq_false_iff.mpr (canonical run stored).ne_nil
  rw [find?, key]
  simp [someId, lookUp?, get?_of_distinct runs distinct run stored]

/-- Two runs of one thread. -/
def linkedPair : List Run :=
  let first : Run :=
    { id := "0f8fad5b-d9cb-469f-a165-70867728950e", repoSlug := "acme/site", task := "Fix it",
      baseBranch := "main", branchName := "agent/0f8fad5b", requestedBy := "U1",
      channelId := "C1", threadTs := "1.5", createdAt := "2024-01-01" }
  [first, { first with id := "deadbeef-0000-4000-8000-00000000cafe" }]

/-- The second run is found by its id in capitals, between words of digits that
    begin the id of the first run and that id itself. -/
theorem second_run_is_found :
    find? linkedPair ("<http://host/0f8fad5b?run=" ++ "DEADBEEF-0000-4000-8000-00000000caFE" ++
      " (0f8fad5b-d9cb-469f-a165-70867728950e)>") = linkedPair[1]? := by
  have canonical : ∀ run ∈ linkedPair, Identifier.Canonical run.id := by
    simp only [linkedPair, List.forall_mem_cons]
    exact ⟨⟨["0f8fad5b", "d9cb", "469f", "a165", "70867728950e"], by decide, by decide, by decide⟩,
      ⟨["deadbeef", "0000", "4000", "8000", "00000000cafe"], by decide, by decide, by decide⟩,
      by simp⟩
  exact pasted_id_finds_its_run linkedPair (by decide) canonical linkedPair[1] (by decide)
    "DEADBEEF-0000-4000-8000-00000000caFE" "<http://host/0f8fad5b?run="
    " (0f8fad5b-d9cb-469f-a165-70867728950e)>" (by decide +kernel) (by decide)

end Store

end AgentRuns
