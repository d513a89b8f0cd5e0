import AgentRuns.Proofs.Store.Transitions

/-!
# Chains of follow-ups

A run that follows up a stored run is linked to it once, when it is created: it
names its parent, takes the next place behind it, and takes over the first run of
its chain. Nothing checks these links later, and an update may give any of them. If
none does, they stay right. A run is stored behind its parent, so the links lead to
the front of the list and cannot run in a circle; they end at the run that the root
names, after as many steps as the place in the chain says.

A parent that was not stored when a follow-up named it makes no link, and none is
made later if a run with that id comes to be stored.
-/

namespace AgentRuns

/-- What ties a run to its chain. -/
structure Link where
  id : Text
  parent : Option Text
  root : Option Text
  place : Int

/-- The link with the pairs joined in its texts. -/
def Link.joined (link : Link) : Link :=
  ⟨link.id.joined, link.parent.map Text.joined, link.root.map Text.joined, link.place⟩

namespace Run

/-- The link of a run. -/
def link (run : Run) : Link := ⟨run.id, run.parentRunId, run.rootRunId, run.chainIndex⟩

/-- The keys of a run's link. -/
def linkKeys : List Text := ["id", "parentRunId", "rootRunId", "chainIndex"]

end Run

namespace Store

/-- Whether the operation is an update that gives a link or a part of one. -/
def Operation.relinks : Operation → Bool
  | .update _ changes => changes.any fun change => Run.linkKeys.contains change.1
  | _ => false

/-- How a run is tied to the runs that were stored before it: it begins a chain, or
    it follows one of them in its chain. -/
inductive Linked (earlier : List Run) (run : Run) : Prop
  | begins (noRoot : run.rootRunId = none) (first : run.chainIndex = 0)
  | follows (id : Text) (parent : Run) (named : run.parentRunId = some id) (someName : id ≠ [])
    (stored : get? earlier id = some parent) (next : run.chainIndex = parent.chainIndex + 1)
    (root : run.rootRunId = some (parent.rootRunId.getD parent.id))

/-- The way from a run to its parent, as long as there is a root to be reached, and
    where it ends. -/
inductive Climbs (runs : List Run) : Run → Nat → Run → Prop
  | rests (run : Run) (noRoot : run.rootRunId = none) : Climbs runs run 0 run
  | rises (run parent top : Run) (id root : Text) (steps : Nat)
    (rooted : run.rootRunId = some root) (named : run.parentRunId = some id)
    (stored : get? runs id = some parent) (above : Climbs runs parent steps top) :
    Climbs runs run (steps + 1) top

/-- Every run of the list is tied to the runs before it. -/
def AllLinked (runs : List Run) : Prop :=
  ∀ before run behind, runs = before ++ run :: behind → Linked before run

/-- The chains of a list of runs form a forest: every run is tied to the runs before
    it, and from every run that has a root the way leads in as many steps as its
    place says to the run that the root names, which begins its chain. -/
structure Forest (runs : List Run) : Prop where
  linked : AllLinked runs
  climbs : ∀ run ∈ runs, ∀ root, run.rootRunId = some root →
    ∃ (steps : Nat) (top : Run), run.chainIndex = steps ∧ Climbs runs run steps top ∧
      get? runs root = some top ∧ top.rootRunId = none ∧ top.chainIndex = 0

/-! ## The ways that links lead -/

/-- What is found among earlier runs is found among all. A lookup takes the first run of an
    id. -/
theorem get?_append_left (runs behind : List Run) (id : Text) (run : Run)
    (found : get? runs id = some run) : get? (runs ++ behind) id = some run := by
  rw [get?, List.find?_append, ← get?, found, Option.some_or]

/-- The run that is found for an id has it and stands between others. -/
theorem exists_split_of_get? (runs : List Run) (id : Text) (run : Run)
    (found : get? runs id = some run) :
    run.id = id ∧ ∃ before behind, runs = before ++ run :: behind := by
  have here := List.find?_some found
  exact ⟨beq_iff_eq.mp here, List.append_of_mem (List.mem_of_find?_eq_some found)⟩

/-- A run without a root is the first of its chain. A run that follows another one names its
    root. -/
theorem Linked.first {earlier : List Run} {run : Run} (linked : Linked earlier run)
    (noRoot : run.rootRunId = none) : run.chainIndex = 0 := by
  rcases linked with ⟨_, first⟩ | ⟨_, _, _, _, _, _, root⟩
  · exact first
  · rw [noRoot] at root
    cases root

/-- From every run that has a root the way leads to the run of that name. The
    induction is on the number of runs before it, since its parent is one of them. -/
theorem AllLinked.climbs {runs : List Run} (linked : AllLinked runs) (before : List Run)
    (run : Run) (behind : List Run) (split : runs = before ++ run :: behind) (root : Text)
    (rooted : run.rootRunId = some root) :
    root ≠ [] ∧ ∃ (steps : Nat) (top : Run), run.chainIndex = steps ∧ Climbs runs run steps top ∧
      get? runs root = some top ∧ top.rootRunId = none ∧ top.chainIndex = 0 := by
  induction size : before.length using Nat.strong_induction_on
    generalizing before run behind root with
  | _ count inductionHypothesis =>
    rcases linked before run behind split with
      ⟨noRoot, _⟩ | ⟨id, parent, named, someName, stored, next, ownRoot⟩
    · rw [noRoot] at rooted
      cases rooted
    · rw [ownRoot] at rooted
      obtain ⟨here, front, middle, within⟩ := exists_split_of_get? before id parent stored
      have storedAll : get? runs id = some parent :=
        split ▸ get?_append_left before (run :: behind) id parent stored
      have parentSplit : runs = front ++ parent :: (middle ++ run :: behind) := by
        rw [split, within, List.append_assoc]
        rfl
      cases parentRoot : parent.rootRunId with
      | none =>
        rw [parentRoot, Option.getD_none, here] at rooted
        cases rooted
        have first := (linked front parent _ parentSplit).first parentRoot
        refine ⟨someName, 1, parent, ?_, ?_, storedAll, parentRoot, first⟩
        · rw [next, first]
          rfl
        · exact .rises run parent parent _ _ 0 ownRoot named storedAll (.rests parent parentRoot)
      | some above =>
        rw [parentRoot, Option.getD_some] at rooted
        cases rooted
        have shorter : front.length < count := by
          rw [← size, within]
          simp
        obtain ⟨someRoot, steps, top, place, climbs, ends⟩ :=
          inductionHypothesis front.length shorter front parent _ parentSplit root parentRoot rfl
        refine ⟨someRoot, steps + 1, top, ?_, ?_, ends⟩
        · rw [next, place]
          rfl
        · exact .rises run parent top id _ steps ownRoot named storedAll climbs

/-- Runs that are tied to those before them form a forest. Each of them stands at a place of
    the list, and from there its way was followed. -/
theorem AllLinked.forest {runs : List Run} (linked : AllLinked runs) : Forest runs where
  linked := linked
  climbs run member root rooted := by
    obtain ⟨before, behind, split⟩ := List.append_of_mem member
    exact (linked.climbs before run behind split root rooted).2

/-! ## What operations do to links -/

/-- Whether a run is tied to others is told by the links. No other field of the runs has a
    part in it. -/
theorem Linked.congr {earlier others : List Run} {run other : Run} (linked : Linked earlier run)
    (alike : earlier.map Run.link = others.map Run.link) (same : run.link = other.link) :
    Linked others other := by
  have find (runs : List Run) (id : Text) :
      (get? runs id).map Run.link = (runs.map Run.link).find? (·.id == id) := by
    rw [List.find?_map]
    rfl
  simp only [Run.link, Link.mk.injEq] at same
  obtain ⟨_, sameParent, sameRoot, samePlace⟩ := same
  rcases linked with ⟨noRoot, first⟩ | ⟨id, parent, named, someName, stored, next, root⟩
  · exact .begins (sameRoot ▸ noRoot) (samePlace ▸ first)
  · have found := find others id
    rw [← alike, ← find earlier id, stored, Option.map_some] at found
    obtain ⟨counterpart, otherStored, otherSame⟩ := Option.map_eq_some_iff.mp found
    simp only [Run.link, Link.mk.injEq] at otherSame
    obtain ⟨parentId, _, parentRoot, parentPlace⟩ := otherSame
    refine .follows id counterpart (sameParent ▸ named) someName otherStored ?_ ?_
    · rw [← samePlace, next, parentPlace]
    · rw [← sameRoot, root, parentId, parentRoot]

/-- Runs with the links of runs that are tied are tied as well. So an operation that keeps
    links keeps the ties. -/
theorem AllLinked.congr {runs others : List Run} (linked : AllLinked runs)
    (alike : runs.map Run.link = others.map Run.link) : AllLinked others := by
  intro before run behind split
  rw [split, List.map_append, List.map_cons] at alike
  obtain ⟨front, rest, rfl, frontAlike, restAlike⟩ := List.map_eq_append_iff.mp alike
  obtain ⟨other, others, rfl, same, _⟩ := List.map_eq_cons_iff.mp restAlike
  exact (linked front other others rfl).congr frontAlike same

/-- A run behind others that is tied to them leaves all runs tied. Those before it are tied to
    fewer runs than all. -/
theorem AllLinked.append {runs : List Run} {run : Run} (linked : AllLinked runs)
    (last : Linked runs run) : AllLinked (runs ++ [run]) := by
  intro before other behind split
  rcases List.eq_nil_or_concat behind with rfl | ⟨behind, final, rfl⟩
  · obtain ⟨rfl, same⟩ := List.append_inj' split rfl
    cases same
    exact last
  · rw [List.concat_eq_append, ← List.cons_append, ← List.append_assoc] at split
    exact linked before other behind (List.append_inj' split rfl).1

/-- The links of a document are those that were written, with their pairs joined. Joining
    concerns the texts of a link and not its index. -/
theorem link_joined (runs : List Run) :
    (runs.map Run.joined).map Run.link = (runs.map Run.link).map Link.joined := by
  rw [List.map_map, List.map_map]
  rfl

/-- A run that is amended keeps its link if no part of one is given. The parts are the four
    fields of a link. -/
theorem amend_link (changes : Table Json) (run amended : Run)
    (keepsLink : ∀ key ∈ Run.linkKeys, key ∉ changes.map Prod.fst)
    (ok : amend changes run = .ok amended) : amended.link = run.link := by
  have kept (key : Text) (inLink : key ∈ Run.linkKeys) :
      amended.fields.get? key = run.fields.get? key := by
    have given := amend_fields changes run amended ok key
    rwa [Table.get?_ofEntries_of_notMem changes key (keepsLink key inLink)] at given
  have optional (first second : Option Text)
      (same : some (Json.ofText? first) = some (Json.ofText? second)) : first = second := by
    cases first <;> cases second <;> simp_all [Json.ofText?]
  have id : amended.id = run.id :=
    Json.string.inj (Option.some.inj (kept "id" (by decide)))
  have parent : amended.parentRunId = run.parentRunId :=
    optional _ _ (kept "parentRunId" (by decide))
  have root : amended.rootRunId = run.rootRunId := optional _ _ (kept "rootRunId" (by decide))
  have place : amended.chainIndex = run.chainIndex :=
    Json.int.inj (Option.some.inj (kept "chainIndex" (by decide)))
  rw [Run.link, Run.link, id, parent, root, place]

/-- A run that is tied to others has a root with a name or none. An empty root would count as
    none and would break the chain. -/
theorem AllLinked.present_root {runs : List Run} (linked : AllLinked runs) (before : List Run)
    (run : Run) (behind : List Run) (split : runs = before ++ run :: behind) :
    Text.present? run.rootRunId = run.rootRunId := by
  cases rooted : run.rootRunId with
  | none => rfl
  | some root =>
    obtain ⟨someRoot, _⟩ := linked.climbs before run behind split root rooted
    exact Option.filter_eq_some_iff.mpr ⟨rfl, by simpa using someRoot⟩

section

variable [NestingLimits]

/-- A run that is created on a document is tied to the runs of the document. Its chain is that
    of the run it follows up, or one of its own. -/
theorem created_linked (document : Document) (linked : AllLinked document.runs)
    (defaultPrefix : Text) (creation : Creation) :
    Linked document.runs (creation.run defaultPrefix document.runs).joined := by
  cases found : (Text.present? creation.request.parentRunId).bind
      fun id => document.runs.find? (·.id == id) with
  | none =>
    apply Linked.begins
    · simp [Run.joined, Creation.run, found]
    · simp [Run.joined, Creation.run, found]
  | some parent =>
    obtain ⟨id, present, stored⟩ := Option.bind_eq_some_iff.mp found
    obtain ⟨named, someName⟩ := Option.filter_eq_some_iff.mp present
    have notEmpty : id ≠ [] := by simpa using someName
    obtain ⟨here, before, behind, split⟩ := exists_split_of_get? document.runs id parent stored
    have settled : parent.joined = parent := document.joined_of_mem_runs parent
      (split ▸ List.mem_append_right _ List.mem_cons_self)
    have idJoined : id.joined = id := by
      rw [← here]
      exact congrArg Run.id settled
    have rootJoined : (parent.rootRunId.getD parent.id).joined =
        parent.rootRunId.getD parent.id := by
      have moved := Option.getD_map Text.joined parent.id parent.rootRunId
      exact moved.symm.trans (congrArg (fun run : Run => run.rootRunId.getD run.id) settled)
    have root := linked.present_root before parent behind split
    refine .follows id parent ?_ notEmpty stored ?_ ?_
    · simp [Run.joined, Creation.run, named, idJoined]
    · simp [Run.joined, Creation.run, found]
    · simp [Run.joined, Creation.run, found, root, rootJoined]

/-- An operation that gives no part of a link leaves all runs tied. Only the creation of a run
    adds a link, and no operation takes one away. -/
theorem linked_after (document : Document) (linked : AllLinked document.runs)
    (operation : Operation) (keepsLinks : operation.relinks = false) :
    AllLinked (operation.after document).runs := by
  rcases operation.after_cases document with same | ⟨others, rewrites, saved⟩
  · rw [same]
    exact linked
  · have settled := document.runs_joined
    have alike (same : others.map Run.link = document.runs.map Run.link) :
        AllLinked (others.map Run.joined) := by
      refine linked.congr ?_
      rw [link_joined, same, ← link_joined, settled]
    have replaced (before behind : List Run) (run other : Run)
        (split : document.runs = before ++ run :: behind) (same : other.link = run.link) :
        (before ++ other :: behind).map Run.link = document.runs.map Run.link := by
      rw [split, List.map_append, List.map_append, List.map_cons, List.map_cons, same]
    rw [runs_of_save others _ saved]
    cases rewrites with
    | setUp _ noRuns => exact alike (by rw [noRuns])
    | create _ defaultPrefix creation =>
      rw [List.map_append, settled]
      exact linked.append (created_linked document linked defaultPrefix creation)
    | update splits changes amended amends =>
      have keeps : ∀ key ∈ Run.linkKeys, key ∉ changes.map Prod.fst := by
        intro key inLink member
        obtain ⟨change, given, rfl⟩ := List.mem_map.mp member
        have absent := List.any_eq_false.mp keepsLinks change given
        exact absent (List.contains_iff_mem.mpr inLink)
      exact alike (replaced _ _ _ _ splits.whole (amend_link changes _ amended keeps amends))
    | saveFeedback splits feedback => exact alike (replaced _ _ _ _ splits.whole rfl)
    | failUnfinished _ reason clock => exact alike (map_withUnfinished _ _ _ fun _ _ => rfl)
    | requeueUnfinished _ reason => exact alike (map_withUnfinished _ _ _ fun _ _ => rfl)

/-- Operations in sequence that give no part of a link leave all runs tied. The induction is
    on the operations, one step for each. -/
theorem linked_afterAll (document : Document) (linked : AllLinked document.runs)
    (operations : List Operation)
    (keepsLinks : ∀ operation ∈ operations, operation.relinks = false) :
    AllLinked (Operation.afterAll document operations).runs := by
  induction operations generalizing document with
  | nil => exact linked
  | cons operation operations inductionHypothesis =>
    obtain ⟨first, others⟩ := List.forall_mem_cons.mp keepsLinks
    exact inductionHypothesis (operation.after document)
      (linked_after document linked operation first) others

/-- Whatever is done to a store that begins without runs, its chains form a forest, as
    long as no update gives an id, a parent, a root or a place. -/
theorem chains_form_a_forest (document : Document) (noRuns : document.runs = [])
    (operations : List Operation)
    (keepsLinks : ∀ operation ∈ operations, operation.relinks = false) :
    Forest (Operation.afterAll document operations).runs := by
  have linked : AllLinked document.runs := by
    intro before run behind split
    rw [noRuns] at split
    exact absurd split.symm (List.append_ne_nil_of_right_ne_nil before (List.cons_ne_nil _ _))
  exact (linked_afterAll document linked operations keepsLinks).forest

end

/-- The facts of a run that names a parent or none. -/
def naming (id : Text) (parent : Option Text) : Creation where
  request :=
    { repoSlug := "acme/site", task := "Fix it", baseBranch := "main", requestedBy := "U1",
      channelId := "C1", threadTs := "1.5", parentRunId := parent }
  id := id
  now := "2024-01-01"

/-- A run, its follow-up, and a run whose parent is not stored. -/
def followedUp : List Operation :=
  [.create "agent" (naming "a" none), .create "agent" (naming "b" (some "a")),
    .create "agent" (naming "c" (some "x"))]

/-- Two runs and one that follows up the first form a forest of two chains. The operations
    give no part of a link. -/
theorem followed_up_runs_form_a_forest :
    Document.runs none = [] ∧ (∀ operation ∈ followedUp, operation.relinks = false) ∧
      Forest (Operation.afterAll none followedUp).runs ∧
      (Operation.afterAll none followedUp).runs.map (fun run =>
        (run.id.string, run.rootRunId.map Text.string, run.chainIndex)) =
      [("a", none, 0), ("b", some "a", 1), ("c", none, 0)] := by
  have keepsLinks : ∀ operation ∈ followedUp, operation.relinks = false := by decide
  refine ⟨rfl, keepsLinks, chains_form_a_forest none rfl followedUp keepsLinks, ?_⟩
  have noRuns : Document.runs none = [] := rfl
  have first : Document.Loads none := rfl
  have one := Operation.runs_after_create none first "agent" (naming "a" none) (by decide)
  have second := Operation.loads_after none first (.create "agent" (naming "a" none))
  have two := Operation.runs_after_create _ second "agent" (naming "b" (some "a"))
    (by rw [one, noRuns]; decide)
  have third := Operation.loads_after _ second (.create "agent" (naming "b" (some "a")))
  have three := Operation.runs_after_create _ third "agent" (naming "c" (some "x"))
    (by rw [two, one, noRuns]; decide)
  rw [two, one, noRuns] at three
  rw [followedUp, Operation.afterAll, List.foldl_cons, List.foldl_cons, List.foldl_cons,
    List.foldl_nil, three]
  decide

end Store

end AgentRuns
