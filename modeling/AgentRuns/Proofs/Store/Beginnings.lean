import AgentRuns.Proofs.Store.Lookup

/-!
# Finding a run by the start of its id

The start of an id is too short to be a full id, so its key is made of the digits
that it begins with: all of it, as long as it does not go beyond the first group, and
the first group alone if it does. A run is found exactly if its id alone begins with
that key.

What goes beyond the first group is therefore not looked at. Where two ids share
their first group, no start of either finds its run, even one that no other id has.
-/

namespace AgentRuns

namespace Identifier

/-! ## The key of a start -/

/-- The number of digits in the first group of an id. -/
def firstGroup : Nat := 8

/-- A full id has 36 characters, the 32 digits of its groups and the four hyphens between
    them. -/
theorem Canonical.length {id : Text} (canonical : Canonical id) : id.length = 36 := by
  obtain ⟨first, second, third, fourth, fifth, rfl, lengths, _⟩ := canonical.parts
  obtain ⟨firstLong, secondLong, thirdLong, fourthLong, fifthLong⟩ := lengths
  simp only [List.length_append, List.length_cons, firstLong, secondLong, thirdLong, fourthLong,
    fifthLong]

/-- An id begins with a group of digits, and a hyphen follows. A start that is looked up is
    cut at this hyphen. -/
theorem Canonical.first_group {id : Text} (canonical : Canonical id) :
    ∃ first rest, id = first ++ hyphen :: rest ∧ first.length = firstGroup ∧
      ∀ c ∈ first, c ∈ smallDigits := by
  obtain ⟨first, _, _, _, _, rfl, ⟨firstLong, _⟩, digits⟩ := canonical.parts
  exact ⟨first, _, rfl, firstLong, digits first List.mem_cons_self⟩

/-- An id is its own small form, and so is each part of it. Its digits are small ones. -/
theorem lower_of_characters (text : Text) (characters : ∀ c ∈ text, c ∈ hyphen :: smallDigits) :
    Text.lower text = text := by
  refine lowerFrom_of_draws text text (List.forall₂_same.mpr fun c member => ?_) []
  exact draws_of_recased c c (characters c member) (Or.inl rfl)

/-- No part of an id is blank or a mark. The digits are the hexadecimal characters in it, and
    the hyphens are none. -/
theorem plain_of_character (c : CodePoint) (ofId : c ∈ hyphen :: smallDigits) :
    Text.isBlank c = false ∧ isMark c = false ∧ (isHex c = true ↔ c ∈ smallDigits) := by
  revert c
  decide +kernel

/-- Nothing is found in a text if nothing is found at any place of it. The places are the
    suffixes of the text. -/
theorem leftmost?_eq_none (here? : Text → Option Text) (text : Text)
    (nothing : ∀ part, part <:+ text → here? part = none) : leftmost? here? text = none := by
  induction text with
  | nil => exact nothing [] List.suffix_rfl
  | cons c rest inductionHypothesis =>
    rw [leftmost?, nothing _ List.suffix_rfl, Option.none_or]
    exact inductionHypothesis fun part inside =>
      nothing part (inside.trans (List.suffix_cons c rest))

/-- A text that begins with a full id is no shorter than one. So no proper start of an id
    holds a full id. -/
theorem length_of_fullId? (text id : Text) (found : fullId? text = some id) :
    36 ≤ text.length := by
  simp only [fullId?, Option.bind_eq_bind, Option.bind_eq_some_iff, Prod.exists] at found
  obtain ⟨_, _, one, _, _, two, _, _, three, _, _, four, _, _, five, _⟩ := found
  obtain ⟨rfl, firstLong, _⟩ := hexDigits?_split _ _ _ _ one
  obtain ⟨second, rfl, secondLong⟩ := hyphenated?_split _ _ _ _ two
  obtain ⟨third, rfl, thirdLong⟩ := hyphenated?_split _ _ _ _ three
  obtain ⟨fourth, rfl, fourthLong⟩ := hyphenated?_split _ _ _ _ four
  obtain ⟨fifth, rfl, fifthLong⟩ := hyphenated?_split _ _ _ _ five
  simp only [List.length_append, List.length_cons]
  omega

section Start

variable {id start : Text} (canonical : Canonical id) (begins : start <+: id)
include canonical begins

/-- A start of an id is made of digits and hyphens, as the id is. -/
theorem characters_of_start : ∀ c ∈ start, c ∈ hyphen :: smallDigits :=
  fun c member => canonical.characters c (begins.subset member)

/-- The digits that a start begins with are those of the first group. A start within the group
    is digits only. -/
theorem digits_of_start : (start.take 32).takeWhile isHex = start.take firstGroup := by
  obtain ⟨first, rest, rfl, long, digits⟩ := canonical.first_group
  have hex (c : CodePoint) (member : c ∈ first) : isHex c = true :=
    (plain_of_character c (List.mem_cons_of_mem hyphen (digits c member))).2.2.mpr
      (digits c member)
  rcases Nat.le_total start.length firstGroup with short | further
  · have within : start <+: first :=
      List.prefix_of_prefix_length_le begins (List.prefix_append first _) (long ▸ short)
    rw [List.take_of_length_le (Nat.le_trans short (by decide)), List.take_of_length_le short,
      List.takeWhile_eq_self_iff]
    exact fun c member => hex c (within.subset member)
  · obtain ⟨others, rfl⟩ : first <+: start :=
      List.prefix_of_prefix_length_le (List.prefix_append first _) begins (long ▸ further)
    have behind : others <+: hyphen :: rest := (List.prefix_append_right_inj first).mp begins
    have stop : (others.take (32 - firstGroup)).takeWhile isHex = [] := by
      rcases others with _ | ⟨c, others⟩
      · rfl
      · obtain ⟨rfl, _⟩ := List.cons_prefix_cons.mp behind
        rfl
    rw [← long, List.take_left, List.take_append, List.take_of_length_le (long ▸ by decide),
      long, List.takeWhile_append_of_pos hex, stop, List.append_nil]

/-- The key of a start is the start itself up to the end of the first group. What follows the
    group has no part in the lookup. -/
theorem key_of_start (someStart : start ≠ []) (proper : start ≠ id) :
    key start = start.take firstGroup := by
  have characters := characters_of_start canonical begins
  have short : start.length < 36 := by
    refine Nat.lt_of_le_of_ne (canonical.length ▸ begins.length_le) fun same => proper ?_
    exact begins.eq_of_length (same.trans canonical.length.symm)
  have plain (c : CodePoint) (member : c ∈ start) := plain_of_character c (characters c member)
  have tight := Text.tight_of_visible start someStart fun c member => (plain c member).1
  have noFullId : leftmost? fullId? start = none := by
    refine leftmost?_eq_none fullId? start fun part inside => ?_
    rw [Option.eq_none_iff_forall_ne_some]
    intro whole found
    exact absurd (length_of_fullId? part whole found) (by have := inside.length_le; omega)
  rw [key, Text.strip_tight start tight, noFullId, Option.none_or]
  rcases Nat.lt_or_ge start.length 6 with few | many
  · have noPart : leftmost? partialId? start = none := by
      refine leftmost?_eq_none partialId? start fun part inside => ?_
      have digitsWithin :=
        ((List.takeWhile_prefix isHex).trans (List.take_prefix 32 part)).length_le
      have partWithin := inside.length_le
      exact if_neg (by omega)
    have unmarked : start.filter (!isMark ·) = start :=
      List.filter_eq_self.mpr fun c member => by rw [(plain c member).2.1]; rfl
    rw [noPart, unmarked, List.take_of_length_le (Nat.le_trans few.le (by decide))]
    exact lower_of_characters start characters
  · obtain ⟨c, rest, rfl⟩ := List.exists_cons_of_ne_nil someStart
    have part : partialId? (c :: rest) = some ((c :: rest).take firstGroup) := by
      rw [partialId?, digits_of_start canonical begins, if_pos]
      rw [List.length_take]
      exact Nat.le_min.mpr ⟨by decide, many⟩
    rw [leftmost?, part, Option.some_or]
    exact lower_of_characters _ fun c member => characters c (List.mem_of_mem_take member)

end Start

end Identifier

namespace Store

/-! ## The run that is found -/

/-- The run is the only one of the list whose id begins with the text. -/
structure Alone (runs : List Run) (start : Text) (run : Run) : Prop where
  stored : run ∈ runs
  begins : start <+: run.id
  only : ∀ other ∈ runs, start <+: other.id → other = run

instance (runs : List Run) (start : Text) (run : Run) : Decidable (Alone runs start run) :=
  decidable_of_iff
    (run ∈ runs ∧ start <+: run.id ∧ ∀ other ∈ runs, start <+: other.id → other = run)
    ⟨fun ⟨stored, begins, only⟩ => ⟨stored, begins, only⟩,
      fun alone => ⟨alone.stored, alone.begins, alone.only⟩⟩

/-- A run that is alone with a part of a text and begins with the text is alone with it. A
    longer start is met by fewer runs. -/
theorem Alone.longer {runs : List Run} {start more : Text} {run : Run}
    (alone : Alone runs start run) (within : start <+: more) (begins : more <+: run.id) :
    Alone runs more run :=
  ⟨alone.stored, begins, fun other stored further =>
    alone.only other stored (within.trans further)⟩

/-- Among runs of distinct ids, the runs whose ids begin with a text are a single one
    exactly if that one is alone. -/
theorem begun_eq_singleton (runs : List Run) (distinct : (runs.map Run.id).Nodup) (start : Text)
    (run : Run) : runs.filter (·.id.startsWith start) = [run] ↔ Alone runs start run := by
  have begun (other : Run) : other ∈ runs.filter (·.id.startsWith start) ↔
      other ∈ runs ∧ start <+: other.id := by
    rw [List.mem_filter, Text.startsWith, List.isPrefixOf_iff_prefix]
  constructor
  · intro single
    simp only [single, List.mem_singleton] at begun
    obtain ⟨stored, begins⟩ := (begun run).mp rfl
    exact ⟨stored, begins, fun other inside further => (begun other).mpr ⟨inside, further⟩⟩
  · intro alone
    have copies := List.eq_replicate_of_mem fun other member =>
      alone.only other ((begun other).mp member).1 ((begun other).mp member).2
    -- All of them are the one run, and no run stands twice among runs of distinct ids.
    have once : (runs.filter (·.id.startsWith start)).length ≤ 1 := by
      have unequal := (List.Nodup.of_map Run.id distinct).filter (·.id.startsWith start)
      rwa [copies, List.nodup_replicate] at unequal
    have some := List.length_pos_of_mem ((begun run).mpr ⟨alone.stored, alone.begins⟩)
    rw [copies, Nat.le_antisymm once some]
    rfl

/-- Among runs of distinct ids, a key that is no id finds the run that is alone with it,
    and none if no run is. -/
theorem lookUp?_eq_some_iff (runs : List Run) (distinct : (runs.map Run.id).Nodup) (key : Text)
    (noId : ∀ run ∈ runs, run.id ≠ key) (found : Run) :
    lookUp? runs key = some found ↔ Alone runs key found := by
  have absent : get? runs key = none := by
    simpa [get?] using noId
  rw [← begun_eq_singleton runs distinct key found, lookUp?, absent]
  dsimp only
  split
  · rename_i run single
    rw [single, Option.some.injEq, List.cons.injEq, eq_self, and_true]
  · rename_i notSingle
    refine iff_of_false (fun impossible => ?_) (notSingle found)
    exact Option.some_ne_none found impossible.symm

/-- The start of a stored id finds a run exactly if that run's id alone begins with it
    and alone begins with the part of it in the first group. -/
theorem start_of_id_finds_run (runs : List Run) (distinct : (runs.map Run.id).Nodup)
    (canonical : ∀ run ∈ runs, Identifier.Canonical run.id) (start : Text)
    (someStart : start ≠ []) (begins : ∃ run ∈ runs, start <+: run.id ∧ start ≠ run.id)
    (found : Run) :
    find? runs start = some found ↔
      Alone runs start found ∧ Alone runs (start.take Identifier.firstGroup) found := by
  obtain ⟨run, stored, begins, proper⟩ := begins
  have key := Identifier.key_of_start (canonical run stored) begins someStart proper
  have someKey : (start.take Identifier.firstGroup).isEmpty = false := by
    simp [someStart, Identifier.firstGroup]
  have noId : ∀ other ∈ runs, other.id ≠ start.take Identifier.firstGroup := by
    intro other inside same
    have long := congrArg List.length same
    rw [(canonical other inside).length, List.length_take, Identifier.firstGroup] at long
    omega
  rw [find?, key, someKey, if_neg Bool.false_ne_true, lookUp?_eq_some_iff runs distinct _ noId]
  refine ⟨fun alone => ⟨?_, alone⟩, And.right⟩
  have same := alone.only run stored ((List.take_prefix _ start).trans begins)
  exact alone.longer (List.take_prefix _ start) (same ▸ begins)

/-- Three runs, two of which have ids with the same first group. -/
def groupedRuns : List Run :=
  let run (id : Text) : Run :=
    { id := id, repoSlug := "acme/site", task := "Fix it", baseBranch := "main",
      branchName := "agent/fix", requestedBy := "U1", channelId := "C1", threadTs := "1.5",
      createdAt := "2024-01-01" }
  [run "aaaaaaaa-1111-4111-8111-111111111111", run "aaaaaaaa-2222-4222-8222-222222222222",
    run "bbbbbbbb-3333-4333-8333-333333333333"]

/-- The ids of the three runs are full ids. -/
theorem groupedRuns_canonical : ∀ run ∈ groupedRuns, Identifier.Canonical run.id := by
  simp only [groupedRuns, List.forall_mem_cons]
  refine ⟨⟨["aaaaaaaa", "1111", "4111", "8111", "111111111111"], ?_⟩,
    ⟨["aaaaaaaa", "2222", "4222", "8222", "222222222222"], ?_⟩,
    ⟨["bbbbbbbb", "3333", "4333", "8333", "333333333333"], ?_⟩, by simp⟩
  all_goals decide +kernel

/-- A start that goes beyond a first group of its own finds its run. The group alone tells the
    run from the others. -/
theorem own_group_finds_run : find? groupedRuns "bbbbbbbb-33" = groupedRuns[2]? :=
  (start_of_id_finds_run groupedRuns (by decide) groupedRuns_canonical "bbbbbbbb-33"
    (by decide) ⟨groupedRuns[2], by decide, by decide, by decide⟩ groupedRuns[2]).mpr
    ⟨by decide, by decide⟩

/-- A start that no other id has finds no run, since the first group is shared. The character
    that tells the two runs apart stands behind the group. -/
theorem shared_group_hides_run :
    (groupedRuns.map Run.id).Nodup ∧ (∀ run ∈ groupedRuns, Identifier.Canonical run.id) ∧
      Alone groupedRuns "aaaaaaaa-2" groupedRuns[1] ∧
      groupedRuns[1].id ≠ "aaaaaaaa-2" ∧ find? groupedRuns "aaaaaaaa-2" = none := by
  refine ⟨by decide, groupedRuns_canonical, by decide, by decide, ?_⟩
  decide +kernel

end Store

end AgentRuns
