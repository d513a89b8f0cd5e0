import AgentRuns.Inspector.Basic
import AgentRuns.Proofs.Text.Order
import Mathlib.Data.List.TakeWhile

/-!
# Which log a target names

The start of a folder's name means the folders of the work root whose names begin with
it and that hold a log. The inspector takes the first of these by name. It does not ask
whether there are others, so a start that several runs share shows the log of one of
them, and a call is refused only if no folder is meant at all.
-/

namespace AgentRuns

/-! ## Targets that are names -/

/-- A text without slashes that counts as a segment is the path of this segment. An empty text
    and a single point do not count. -/
theorem Path.ofText_segment (segment : Text) (counted : counts segment = true)
    (oneSegment : CodePoint.char '/' ∉ segment) :
    ofText segment = ⟨.relative, [segment]⟩ := by
  have noSlash : segment.takeWhile (· == .char '/') = [] := by
    cases segment with
    | nil => rfl
    | cons c rest =>
      have other : ¬(c == CodePoint.char '/') = true := fun slash =>
        oneSegment (beq_iff_eq.mp slash ▸ List.mem_cons_self)
      exact List.takeWhile_cons_of_neg (p := (· == CodePoint.char '/')) other
  rw [ofText, noSlash, List.splitOn_eq_singleton oneSegment, List.filter_cons_of_pos counted]
  rfl

/-- A name ends with its suffix. A name without a point has an empty one. -/
theorem Path.suffix_ends_name (path : Path) : path.suffix <:+ path.name := by
  have split : path.name.reverse.takeWhile (· != .char '.') ++
      path.name.reverse.dropWhile (· != .char '.') = path.name.reverse :=
    List.takeWhile_append_dropWhile
  rw [suffix]
  split
  · exact List.nil_suffix
  · rename_i both
    -- Behind the extension, read backward, stands the point.
    cases rest : path.name.reverse.dropWhile (· != .char '.') with
    | nil =>
      rw [rest, List.append_nil] at split
      rw [split] at both
      simp at both
    | cons c stem =>
      have point : c = .char '.' := by
        have stopped := List.head?_dropWhile_not (· != CodePoint.char '.') path.name.reverse
        rw [rest] at stopped
        simpa using stopped
      rw [rest, point] at split
      have whole := congrArg List.reverse split
      rw [List.reverse_reverse, List.reverse_append, List.reverse_cons, List.append_assoc] at whole
      exact ⟨stem.reverse, whole⟩

namespace Inspector

/-- The log of a target of one segment is the one in the folder of that name. So an exact name
    is a start of names as well. -/
theorem exactLog_segment (workRoot : Path) (target : Text) (counted : Path.counts target = true)
    (oneSegment : CodePoint.char '/' ∉ target) :
    exactLog workRoot target = folderLog workRoot target := by
  have logName : Path.ofText Settings.logName = ⟨.relative, [Settings.logName]⟩ :=
    Path.ofText_segment Settings.logName (by decide) (by decide)
  rw [exactLog, Path.ofText_segment target counted oneSegment, logName]
  simp [Path.join, folderLog]

/-! ## The folders that a target means -/

/-- Whether the folder of a name in the work root holds a log. -/
def HoldsLog (tree : FileTree) (here : Place) (workRoot : Path) (name : Text) : Prop :=
  tree.isFile here (folderLog workRoot name) = true

instance (tree : FileTree) (here : Place) (workRoot : Path) (name : Text) :
    Decidable (HoldsLog tree here workRoot name) :=
  inferInstanceAs (Decidable (_ = true))

/-- A folder of the work root that the start of a name means. -/
structure Meant (tree : FileTree) (here : Place) (workRoot : Path) (start name : Text) : Prop where
  listed : name ∈ tree.foldersIn here workRoot
  begins : start <+: name
  holds : HoldsLog tree here workRoot name

/-- The first of these folders by name. -/
structure FirstMeant (tree : FileTree) (here : Place) (workRoot : Path) (start name : Text) :
    Prop where
  meant : Meant tree here workRoot start name
  first : ∀ other, Meant tree here workRoot start other → Text.le name other = true

variable (tree : FileTree) (here : Place) (workRoot : Path)

/-- The folders of a folder are listed in the order of their names, character by character. -/
theorem foldersIn_sorted : (tree.foldersIn here workRoot).Pairwise
    fun name other => Text.le name other = true := by
  rw [FileTree.foldersIn]
  split
  · exact (List.pairwise_mergeSort Text.le_trans Text.le_total _).sublist List.filter_sublist
  · exact List.Pairwise.nil

/-- The folder that the search for the start of a name takes. -/
def searched? (start : Text) : Option Text :=
  ((tree.foldersIn here workRoot).filter (·.startsWith start)).find?
    fun name => tree.isFile here (folderLog workRoot name)

/-- The search takes the first folder that is meant. A folder without a log is passed over. -/
theorem searched?_eq_some (start name : Text) :
    searched? tree here workRoot start = some name ↔
      FirstMeant tree here workRoot start name := by
  have sorted := (foldersIn_sorted tree here workRoot).sublist
    (List.filter_sublist (p := (Text.startsWith · start)))
  have meant (name : Text) :
      (name ∈ (tree.foldersIn here workRoot).filter (·.startsWith start) ∧
        tree.isFile here (folderLog workRoot name) = true) ↔
      Meant tree here workRoot start name := by
    rw [List.mem_filter, Text.startsWith, List.isPrefixOf_iff_prefix]
    exact ⟨fun ⟨⟨listed, begins⟩, holds⟩ => ⟨listed, begins, holds⟩,
      fun ⟨listed, begins, holds⟩ => ⟨⟨listed, begins⟩, holds⟩⟩
  rw [searched?, Text.find?_sorted _ sorted, meant]
  constructor
  · rintro ⟨isMeant, first⟩
    refine ⟨isMeant, fun other alsoMeant => ?_⟩
    obtain ⟨listed, holds⟩ := (meant other).mpr alsoMeant
    exact first other listed holds
  · rintro ⟨isMeant, first⟩
    exact ⟨isMeant, fun other listed holds => first other ((meant other).mp ⟨listed, holds⟩)⟩

/-- Of folders that are meant there is a first one. The order of the names has no ties. -/
theorem exists_firstMeant (start name : Text) (meant : Meant tree here workRoot start name) :
    ∃ first, FirstMeant tree here workRoot start first := by
  have candidate : name ∈ (tree.foldersIn here workRoot).filter (·.startsWith start) :=
    List.mem_filter.mpr ⟨meant.listed, List.isPrefixOf_iff_prefix.mpr meant.begins⟩
  have found : (searched? tree here workRoot start).isSome = true :=
    List.find?_isSome.mpr ⟨name, candidate, meant.holds⟩
  obtain ⟨first, taken⟩ := Option.isSome_iff_exists.mp found
  exact ⟨first, (searched?_eq_some tree here workRoot start first).mp taken⟩

/-! ## What the inspector shows -/

section Start

variable (target : Text) (someName : target ≠ []) (oneName : CodePoint.char '/' ∉ target)
  (noPoint : target ≠ ".") (noEnding : ¬Text.ofString ".log" <:+ target)
  (noFolder : ¬HoldsLog tree here workRoot target)
include someName oneName noPoint noEnding noFolder

/-- A target that is no path and no folder's name resolves to the first folder that it
    means. -/
theorem resolve?_start (path : Path) :
    resolve? tree here workRoot target = some path ↔
      ∃ name, FirstMeant tree here workRoot target name ∧ folderLog workRoot name = path := by
  have counted : Path.counts target = true := by
    simp [Path.counts, someName, noPoint]
  have direct : ((Path.ofText target).suffix == Text.ofString ".log") = false := by
    rw [Path.ofText_segment target counted oneName]
    refine beq_false_of_ne fun same => noEnding ?_
    exact same ▸ Path.suffix_ends_name ⟨.relative, [target]⟩
  have noExact : tree.isFile here (exactLog workRoot target) = false := by
    rw [exactLog_segment workRoot target counted oneName]
    exact Bool.eq_false_iff.mpr noFolder
  have searched : resolve? tree here workRoot target =
      (searched? tree here workRoot target).map (folderLog workRoot) := by
    rw [resolve?, direct, Bool.false_and, if_neg Bool.false_ne_true]
    simp only [noExact, List.find?_map, Bool.false_eq_true, if_false]
    rfl
  simp only [searched, Option.map_eq_some_iff, searched?_eq_some]

/-- Such a target is refused exactly if it means no folder. That it means several is no reason
    to refuse it. -/
theorem resolve?_start_eq_none :
    resolve? tree here workRoot target = none ↔
      ∀ name, ¬Meant tree here workRoot target name := by
  have resolved := resolve?_start tree here workRoot target someName oneName noPoint noEnding
    noFolder
  constructor
  · intro none name meant
    obtain ⟨first, isFirst⟩ := exists_firstMeant tree here workRoot target name meant
    have some := (resolved _).mpr ⟨first, isFirst, rfl⟩
    rw [none] at some
    cases some
  · intro notMeant
    rw [Option.eq_none_iff_forall_ne_some]
    intro path some
    obtain ⟨name, isFirst, _⟩ := (resolved path).mp some
    exact notMeant name isFirst.meant

end Start

/-- A call ends with code 1 exactly if its target names no log. Its other options make no
    difference to that. -/
theorem code_of_run [NestingLimits] (settings : Settings) (terminal : Bool) (arguments : List Text)
    (options : Options) (read : Options.read arguments = .options options) :
    (∃ outcome, run tree here settings terminal arguments = .ok outcome ∧ outcome.code = 1) ↔
      resolve? tree here (Inspector.workRoot settings options) options.target = none := by
  rw [run, read]
  dsimp only
  cases resolve? tree here (Inspector.workRoot settings options) options.target with
  | none => exact ⟨fun _ => rfl, fun _ => ⟨_, rfl, rfl⟩⟩
  | some path =>
    dsimp only
    cases Transcript.events (Bytes.textLossy ((tree.read? here path).getD [])) with
    | error => simp [bind, Except.bind]
    | ok events => simp [bind, Except.bind, pure, Except.pure]

/-- A tree with three folders in its work root, two of which hold an empty log. -/
def threeFolders : FileTree where
  folders := [[".work", "ab0"]]
  files := [([".work", "ab1", "run.log"], []), ([".work", "ab2", "run.log"], [])]

/-- The three folders are listed by their names. -/
theorem threeFolders_listed : threeFolders.foldersIn [] (Path.ofText ".work") =
    [Text.ofString "ab0", Text.ofString "ab1", Text.ofString "ab2"] := by
  have located : threeFolders.locate? [] (Path.ofText ".work") = some [Text.ofString ".work"] := by
    decide +kernel
  have unsorted : ((threeFolders.folders ++ threeFolders.files.map (·.1)).filterMap
      (FileTree.nameBelow? [".work"])).eraseDups =
        [Text.ofString "ab0", Text.ofString "ab1", Text.ofString "ab2"] := by
    decide +kernel
  have names : threeFolders.names [".work"] =
      [Text.ofString "ab0", Text.ofString "ab1", Text.ofString "ab2"] := by
    rw [FileTree.names, unsorted]
    exact List.mergeSort_of_pairwise (by decide)
  rw [FileTree.foldersIn, located]
  dsimp only
  rw [names]
  decide +kernel

/-- The common start of the three names means the two folders with a log. The first one by
    name has none. -/
theorem threeFolders_meant (name : Text) :
    Meant threeFolders [] (Path.ofText ".work") "ab" name ↔ name = "ab1" ∨ name = "ab2" := by
  constructor
  · rintro ⟨listed, _, holds⟩
    simp only [threeFolders_listed, List.mem_cons, List.not_mem_nil, or_false] at listed
    rcases listed with rfl | other
    · exact absurd holds (by decide +kernel)
    · exact other
  · rintro (rfl | rfl)
    · exact ⟨by rw [threeFolders_listed]; decide, by decide, by decide +kernel⟩
    · exact ⟨by rw [threeFolders_listed]; decide, by decide, by decide +kernel⟩

/-- The first folder that is meant is the second one by name. -/
theorem threeFolders_first :
    FirstMeant threeFolders [] (Path.ofText ".work") "ab" (Text.ofString "ab1") := by
  refine ⟨(threeFolders_meant _).mpr (Or.inl rfl), fun other meant => ?_⟩
  rcases (threeFolders_meant other).mp meant with rfl | rfl <;> decide

end Inspector

end AgentRuns
