import AgentRuns.Proofs.Text.Order
import AgentRuns.Store.Query
import Mathlib.Data.List.Basic

/-!
# Chains and newest runs

The chain of a thread is sorted by the time of creation, while the newest run of a
thread or a channel is the last one in the store. The two agree as long as the runs
were stored in the order of their creation: sorting then changes nothing, and the
newest run stands at the end of its chain.

Where they were not, the chain is still made of the runs of the thread, and runs of
one time stand in it as they were stored.
-/

namespace AgentRuns.Store

/-- The runs of a thread, in stored order. -/
def ofThread (runs : List Run) (channel thread : Text) : List Run :=
  runs.filter fun run => run.channelId = channel ∧ run.threadTs = thread

/-- Whether a run was created no later than another one. -/
def noLater (run other : Run) : Bool := Text.le run.createdAt other.createdAt

/-- Whether no run was created before one that was stored earlier. -/
def Chronological (runs : List Run) : Prop :=
  runs.Pairwise fun run later => noLater run later = true

instance (runs : List Run) : Decidable (Chronological runs) :=
  inferInstanceAs (Decidable (runs.Pairwise _))

/-! ## What a chain holds -/

/-- The order of times is transitive, as that of texts is. -/
theorem noLater_trans (first second third : Run) (one : noLater first second = true)
    (other : noLater second third = true) : noLater first third = true :=
  Text.le_trans _ _ _ one other

/-- Of two runs one was created no later than the other. -/
theorem noLater_total (run other : Run) : (noLater run other || noLater other run) = true :=
  Text.le_total _ _

/-- Runs of one time are in chronological order as they stand. None of them is earlier than
    another. -/
theorem chronological_of_time (runs : List Run) (time : Text) :
    Chronological (runs.filter (·.createdAt = time)) := by
  refine List.pairwise_of_forall_mem_list fun run member later laterMember => ?_
  have here : run.createdAt = time := by simpa using List.of_mem_filter member
  have laterHere : later.createdAt = time := by simpa using List.of_mem_filter laterMember
  rw [noLater, here, laterHere]
  simpa using Text.le_total time time

/-- The runs of a thread are those that chains are made of and newest runs are sought
    among. -/
theorem ofThread_eq (runs : List Run) (channel thread : Text) :
    ofThread runs channel thread =
      runs.filter fun run => run.channelId == channel && run.threadTs == thread :=
  List.filter_congr fun run _ => Bool.eq_iff_iff.mpr (by simp)

/-- A chain is what sorting makes of the runs of its thread. The sorting is stable. -/
theorem chain_eq (runs : List Run) (channel thread : Text) :
    chain runs channel thread = (ofThread runs channel thread).mergeSort noLater := by
  rw [ofThread_eq]
  rfl

/-- A chain holds the runs of its thread, each as often as it is stored. -/
theorem chain_perm (runs : List Run) (channel thread : Text) :
    (chain runs channel thread).Perm (ofThread runs channel thread) := by
  rw [chain_eq]
  exact List.mergeSort_perm _ noLater

/-- A chain is in chronological order, whatever the stored order is. -/
theorem chain_sorted (runs : List Run) (channel thread : Text) :
    Chronological (chain runs channel thread) := by
  rw [chain_eq]
  exact List.pairwise_mergeSort noLater_trans noLater_total _

/-- Runs of one time need no sorting, so sorting keeps them in their order. -/
theorem chain_ties (runs : List Run) (channel thread time : Text) :
    (chain runs channel thread).filter (·.createdAt = time) =
      (ofThread runs channel thread).filter (·.createdAt = time) := by
  have alike := chronological_of_time (ofThread runs channel thread) time
  have kept := List.sublist_mergeSort noLater_trans noLater_total alike List.filter_sublist
  rw [← chain_eq] at kept
  have ofTime := kept.filter (·.createdAt = time)
  rw [List.filter_filter] at ofTime
  simp only [Bool.and_self] at ofTime
  have sameLength := ((chain_perm runs channel thread).filter (·.createdAt = time)).length_eq
  exact (ofTime.eq_of_length sameLength.symm).symm

/-- Sorting changes nothing in a chronological store. The runs of a thread are in order there,
    as all runs are. -/
theorem chain_stored (runs : List Run) (chronological : Chronological runs)
    (channel thread : Text) : chain runs channel thread = ofThread runs channel thread := by
  rw [chain_eq]
  exact List.mergeSort_of_pairwise (chronological.sublist List.filter_sublist)

/-- A chain is empty exactly if its thread has no run. -/
theorem chain_eq_nil (runs : List Run) (channel thread : Text) :
    chain runs channel thread = [] ↔ ofThread runs channel thread = [] := by
  have permuted := chain_perm runs channel thread
  exact ⟨fun empty => (empty ▸ permuted).nil_eq.symm, fun empty => (empty ▸ permuted).eq_nil⟩

/-- The runs of a chain are stored runs of the channel. Sorting takes none of them away and
    adds none. -/
theorem mem_chain (runs : List Run) (channel thread : Text) (run : Run) :
    run ∈ chain runs channel thread ↔
      run ∈ runs ∧ run.channelId = channel ∧ run.threadTs = thread := by
  rw [(chain_perm runs channel thread).mem_iff]
  simp [ofThread]

/-- All chains of a channel are empty exactly if none of its runs is stored. Each run stands
    in the chain of its own thread. -/
theorem chains_eq_nil (runs : List Run) (channel : Text) :
    (∀ thread, chain runs channel thread = []) ↔ ∀ run ∈ runs, run.channelId ≠ channel := by
  simp only [List.eq_nil_iff_forall_not_mem, mem_chain, not_and]
  constructor
  · exact fun empty run stored here => empty run.threadTs run stored here rfl
  · exact fun absent thread run stored here => absurd here (absent run stored)

/-! ## The newest runs -/

/-- The newest run of a thread is the last one of its runs in stored order. The search goes
    from the end of the list. -/
theorem latestOfThread?_eq (runs : List Run) (channel thread : Text) :
    latestOfThread? runs channel thread = (ofThread runs channel thread).getLast? := by
  rw [ofThread_eq, List.getLast?_filter, latestOfThread?]

/-- A channel has no newest run exactly if none of its runs is stored. -/
theorem latestOfChannel?_eq_none (runs : List Run) (channel : Text) :
    latestOfChannel? runs channel = none ↔ ∀ run ∈ runs, run.channelId ≠ channel := by
  simp [latestOfChannel?]

/-- Behind the newest run of a channel no other one of the channel is stored. This is what a
    search from the end says. -/
theorem exists_split_of_latestOfChannel? (runs : List Run) (channel : Text) (run : Run)
    (newest : latestOfChannel? runs channel = some run) :
    run.channelId = channel ∧ ∃ before behind, runs = before ++ run :: behind ∧
      ∀ other ∈ behind, other.channelId ≠ channel := by
  obtain ⟨here, behind, before, split, others⟩ := List.find?_eq_some_iff_append.mp newest
  refine ⟨by simpa using here, before.reverse, behind.reverse, ?_, ?_⟩
  · simpa using congrArg List.reverse split
  · intro other member
    simpa using others other (List.mem_reverse.mp member)

/-- The newest run of a channel is the last one of its thread in stored order, and it
    is stored no earlier than the last one of any chain of the channel. -/
theorem newest_of_channel (runs : List Run) (channel : Text) (run : Run)
    (newest : latestOfChannel? runs channel = some run) :
    (ofThread runs channel run.threadTs).getLast? = some run ∧
      ∃ before behind, runs = before ++ run :: behind ∧
        ∀ thread last, (chain runs channel thread).getLast? = some last →
          last ∈ before ++ [run] ∧ last ∉ behind := by
  obtain ⟨here, before, behind, split, others⟩ :=
    exists_split_of_latestOfChannel? runs channel run newest
  constructor
  · have none : ofThread behind channel run.threadTs = [] := by
      refine List.filter_eq_nil_iff.mpr fun other member => ?_
      simp [others other member]
    have whole : ofThread runs channel run.threadTs =
        ofThread before channel run.threadTs ++ run :: ofThread behind channel run.threadTs := by
      rw [split, ofThread, List.filter_append, List.filter_cons_of_pos (by simp [here])]
      rfl
    rw [whole, none, List.getLast?_concat]
  · refine ⟨before, behind, split, fun thread last ends => ?_⟩
    obtain ⟨stored, ofChannel, _⟩ :=
      (mem_chain runs channel thread last).mp (List.mem_of_getLast? ends)
    have notBehind : last ∉ behind := fun member => others last member ofChannel
    rw [split, ← List.singleton_append, ← List.append_assoc, List.mem_append] at stored
    exact ⟨stored.resolve_right notBehind, notBehind⟩

/-- What the chains of a channel are made of, and what they tell of its newest runs. -/
structure ChainsTold (runs : List Run) (channel : Text) : Prop where
  /-- A chain holds the runs of its thread, each as often as it is stored. -/
  complete : ∀ thread, (chain runs channel thread).Perm (ofThread runs channel thread)
  /-- No run of a chain was created before one that stands earlier in it. -/
  sorted : ∀ thread, Chronological (chain runs channel thread)
  /-- The runs of one time stand in a chain as they were stored. -/
  ties : ∀ thread time, (chain runs channel thread).filter (·.createdAt = time) =
    (ofThread runs channel thread).filter (·.createdAt = time)
  /-- A thread has no newest run exactly if its chain is empty. -/
  noneOfThread : ∀ thread,
    latestOfThread? runs channel thread = none ↔ chain runs channel thread = []
  /-- A channel has no newest run exactly if all its chains are empty. -/
  noneOfChannel : latestOfChannel? runs channel = none ↔
    ∀ thread, chain runs channel thread = []
  /-- In a chronological store a chain is in stored order. -/
  stored : Chronological runs → ∀ thread,
    chain runs channel thread = ofThread runs channel thread
  /-- There the newest run of a thread is the last one of its chain. -/
  newestOfThread : Chronological runs → ∀ thread,
    latestOfThread? runs channel thread = (chain runs channel thread).getLast?
  /-- There the newest run of a channel is the last one of the chain of its own thread,
      and the last one of no chain of the channel is stored behind it. -/
  newestOfChannel : Chronological runs → ∀ run, latestOfChannel? runs channel = some run →
    (chain runs channel run.threadTs).getLast? = some run ∧
      ∃ before behind, runs = before ++ run :: behind ∧
        ∀ thread last, (chain runs channel thread).getLast? = some last →
          last ∈ before ++ [run] ∧ last ∉ behind

/-- Chains tell the runs of their threads in the order of their creation, and the
    newest runs if the store is chronological. -/
theorem chains_tell_newest_runs (runs : List Run) (channel : Text) : ChainsTold runs channel where
  complete := chain_perm runs channel
  sorted := chain_sorted runs channel
  ties := chain_ties runs channel
  noneOfThread thread := by
    rw [latestOfThread?_eq, List.getLast?_eq_none_iff, chain_eq_nil]
  noneOfChannel := by
    rw [latestOfChannel?_eq_none, chains_eq_nil]
  stored chronological := chain_stored runs chronological channel
  newestOfThread chronological thread := by
    rw [latestOfThread?_eq, chain_stored runs chronological]
  newestOfChannel chronological run newest := by
    rw [chain_stored runs chronological]
    exact newest_of_channel runs channel run newest

/-- Three runs of two threads of a channel, two of them created at the same time. -/
def twoThreads : List Run :=
  let first : Run :=
    { id := "a", repoSlug := "acme/site", task := "Fix it", baseBranch := "main",
      branchName := "agent/a", requestedBy := "U1", channelId := "C1", threadTs := "1.5",
      createdAt := "2024-01-01" }
  [first, { first with id := "b", threadTs := "2.5" },
    { first with id := "c", createdAt := "2024-01-02" }]

/-- They are stored in the order of their creation. The newest run of the channel ends the
    chain of the first thread, and the newest run of the second thread is stored before it. -/
theorem two_threads_tell_newest_runs :
    Chronological twoThreads ∧ latestOfChannel? twoThreads "C1" = twoThreads[2]? ∧
      (chain twoThreads "C1" "1.5").getLast? = twoThreads[2]? ∧
      chain twoThreads "C1" "2.5" = [twoThreads[1]] := by
  have told := chains_tell_newest_runs twoThreads "C1"
  have chronological : Chronological twoThreads := by decide
  have newest : latestOfChannel? twoThreads "C1" = some twoThreads[2] := by decide
  exact ⟨chronological, newest, (told.newestOfChannel chronological _ newest).1,
    (told.stored chronological "2.5").trans (by decide)⟩

end AgentRuns.Store
