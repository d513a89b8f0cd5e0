import AgentRuns.Proofs.Event.Tenths
import Mathlib.Data.List.Range

/-!
# The progress of a run

Placing events changes their places and shares and nothing else, and looks at
neither. Places are counted through. An event that does not advance the run has
a share that is told by its kind and phase alone.

The events that advance the run are measured one after the other, the last of
them against all. So their shares are those of one measure at the steps from one
to their number, and have the properties of the measure: they do not decrease,
stay near the exact share and end on the whole.
-/

namespace AgentRuns

/-- The share of an event that does not advance the run. -/
def fixedShare (kind : EventKind) (phase : Option Text) : Percent :=
  if kind = .phaseMarker then .whole (milestone (phase.getD [])) else .whole 0

namespace Event

/-- The event before it is placed. -/
def unplaced (event : Event) : Event := { event with index := 0, progress := .whole 0 }

/-- The shares of the events that advance the run, in order. -/
def measured (placed : List Event) : List Percent :=
  (placed.filter (·.kind.advances)).map (·.progress)

/-- Events are placed without touching anything else, places are counted through,
    what does not advance the run has a fixed share, and it does not matter how
    the events were placed before. -/
structure Placed (place : List Event → List Event) (events : List Event) : Prop where
  kept : (place events).map unplaced = events.map unplaced
  counted : (place events).map (·.index) = (List.range events.length).map fun place => (place : Int)
  fixed : ∀ event ∈ place events, event.kind.advances = false →
    event.progress = fixedShare event.kind event.phase
  afresh : ∀ earlier, earlier.map unplaced = events.map unplaced → place earlier = place events

end Event

/-- Shares in tenths of a percent that go through the steps of a run: they do not
    decrease, each differs from the exact share of its step by a twentieth of a
    percent at most, and the last one is a hundred percent. They increase with
    every step exactly if there are a thousand at most. -/
structure Paced (shares : List Nat) : Prop where
  bounded : ∀ share ∈ shares, share ≤ 1000
  ordered : shares.Pairwise (· ≤ ·)
  near : ∀ step share : Nat, shares[step]? = some share →
    |(share : ℚ) / 10 - 100 * (step + 1) / shares.length| ≤ 1 / 20
  whole : shares ≠ [] → shares.getLast? = some 1000
  increasing : shares.Pairwise (· < ·) ↔ shares.length ≤ 1000

/-- The events that advance the run get tenths of a percent that go through the
    steps, one step for each of them. -/
def Event.Marches (place : List Event → List Event) (events : List Event) : Prop :=
  ∃ shares : List Nat, measured (place events) = shares.map .tenths ∧
    shares.length = advancing events ∧ Paced shares

/-- The shares of a measure at the steps from one to a number of them. -/
def sharesBy (tenths : Nat → Nat → Nat) (total : Nat) : List Nat :=
  (List.range' 1 total).map fun seen => tenths seen total

/-- There is a share for each step of a run. -/
theorem length_sharesBy (tenths : Nat → Nat → Nat) (total : Nat) :
    (sharesBy tenths total).length = total := by
  simp [sharesBy]

/-- The share behind a step is what the measure takes of the steps up to and with it. -/
theorem getElem_sharesBy (tenths : Nat → Nat → Nat) (total step : Nat)
    (inside : step < (sharesBy tenths total).length) :
    (sharesBy tenths total)[step] = tenths (step + 1) total := by
  simp [sharesBy, Nat.add_comm]

/-- A nearest tenth is half a tenth from the exact share at most. The two conditions say so
    without division, as the measure computes it. -/
theorem abs_share_sub (share seen total : Nat) (someStep : 0 < total)
    (most : 2 * total * share ≤ 2000 * seen + total)
    (least : 2000 * seen ≤ 2 * total * share + total) :
    |(share : ℚ) / 10 - 100 * seen / total| ≤ 1 / 20 := by
  have real : (0 : ℚ) < total := by exact_mod_cast someStep
  have most : (2 : ℚ) * total * share ≤ 2000 * seen + total := by exact_mod_cast most
  have least : (2000 : ℚ) * seen ≤ 2 * total * share + total := by exact_mod_cast least
  have common : (share : ℚ) / 10 - 100 * seen / total =
      (2 * total * share - 2000 * seen) / (20 * total) := by
    field_simp
    ring
  rw [common, abs_div, abs_of_pos (by linarith : (0 : ℚ) < 20 * total),
    div_le_div_iff₀ (by linarith) (by norm_num)]
  have apart : |(2 : ℚ) * total * share - 2000 * seen| ≤ total := by
    rw [abs_le]
    constructor <;> linarith
  linarith

/-- The shares of a measure that takes nearest tenths go through the steps: from above zero to
    the whole, and never back. -/
theorem Nearest.paced {tenths : Nat → Nat → Nat} {total : Nat} (nearest : Nearest tenths total) :
    Paced (sharesBy tenths total) := by
  have steps : ∀ seen ∈ List.range' 1 total, 0 < seen ∧ seen ≤ total := by
    intro seen member
    rw [List.mem_range'_1] at member
    omega
  have length := length_sharesBy tenths total
  have ordered : (sharesBy tenths total).Pairwise (· ≤ ·) := by
    rw [sharesBy, List.pairwise_map]
    apply List.Pairwise.imp_of_mem _ List.pairwise_lt_range'
    intro seen later isStep laterStep less
    exact nearest.mono seen later (steps seen isStep).1 less (steps later laterStep).2
  constructor
  case bounded =>
    intro share member
    obtain ⟨seen, isStep, rfl⟩ := List.mem_map.mp member
    obtain ⟨someSeen, inside⟩ := steps seen isStep
    rw [← nearest.last (by omega)]
    by_cases last : seen = total
    · rw [last]
    · exact nearest.mono seen total someSeen (by omega) (Nat.le_refl total)
  case ordered => exact ordered
  case near =>
    intro step share found
    obtain ⟨inside, rfl⟩ := List.getElem?_eq_some_iff.mp found
    rw [getElem_sharesBy, length]
    rw [length] at inside
    obtain ⟨most, least⟩ := nearest (step + 1) (by omega) inside
    have near := abs_share_sub _ (step + 1) total (by omega) most least
    exact_mod_cast near
  case whole =>
    intro someShare
    have someStep : 0 < total := by
      rw [← length]
      exact List.length_pos_of_ne_nil someShare
    rw [List.getLast?_eq_getElem?, List.getElem?_eq_getElem (by omega), getElem_sharesBy, length,
      Nat.sub_add_cancel someStep, nearest.last someStep]
  case increasing =>
    constructor
    · intro increasing
      rw [length]
      apply nearest.few
      intro seen someSeen inside
      have next := List.pairwise_iff_getElem.mp increasing (seen - 1) seen (by omega) (by omega)
        (by omega)
      rw [getElem_sharesBy, getElem_sharesBy, Nat.sub_add_cancel someSeen] at next
      exact next
    · intro few
      rw [length] at few
      rw [sharesBy, List.pairwise_map]
      apply List.Pairwise.imp_of_mem _ List.pairwise_lt_range'
      intro seen later isStep laterStep less
      exact nearest.strict few seen later (steps seen isStep).1 less (steps later laterStep).2

namespace Event

variable (tenths : Nat → Nat → Nat) (total position seen : Nat) (events : List Event)

/-- Placing changes nothing of the events but their places and their shares. -/
theorem unplaced_placeFrom :
    (placeFrom tenths total position seen events).map unplaced = events.map unplaced := by
  induction events generalizing position seen with
  | nil => rfl
  | cons event rest inductionHypothesis =>
    simp [placeFrom, unplaced, inductionHypothesis]

/-- The events are numbered from the given position on, one by one. The kinds of the events
    make no difference. -/
theorem index_placeFrom :
    (placeFrom tenths total position seen events).map (·.index) =
      (List.range' position events.length).map fun place => (place : Int) := by
  induction events generalizing position seen with
  | nil => rfl
  | cons event rest inductionHypothesis =>
    simp [placeFrom, List.range'_succ, inductionHypothesis]

/-- The shares of the counted events are those of the measure, one step after the other. The
    events between them take no step. -/
theorem measured_placeFrom :
    measured (placeFrom tenths total position seen events) =
      (List.range' (seen + 1) (advancing events)).map fun step => .tenths (tenths step total) := by
  induction events generalizing position seen with
  | nil => rfl
  | cons event rest inductionHypothesis =>
    by_cases advances : event.kind.advances = true
    · have others := inductionHypothesis (position + 1) (seen + 1)
      simp only [measured] at others ⊢
      simp [placeFrom, share, advancing, advances, List.range'_succ, others]
    · have others := inductionHypothesis (position + 1) seen
      simp only [measured] at others ⊢
      simp [placeFrom, advancing, advances, others]

/-- An event that is not counted has the share of its kind and phase, wherever it stands. -/
theorem fixed_placeFrom (event : Event)
    (member : event ∈ placeFrom tenths total position seen events)
    (stays : event.kind.advances = false) :
    event.progress = fixedShare event.kind event.phase := by
  induction events generalizing position seen with
  | nil => cases member
  | cons first rest inductionHypothesis =>
    rcases List.mem_cons.mp member with rfl | later
    · have same : first.kind.advances = false := stays
      simp [share, same, fixedShare]
    · exact inductionHypothesis _ _ later

/-- Events are placed alike whatever places and shares they had before. -/
theorem placeFrom_unplaced :
    placeFrom tenths total position seen (events.map unplaced) =
      placeFrom tenths total position seen events := by
  induction events generalizing position seen with
  | nil => rfl
  | cons event rest inductionHypothesis =>
    simp [placeFrom, unplaced, share, inductionHypothesis]

end Event

/-- Events are placed whole by any measure. What the measure is does not matter for their
    places, their number and what they tell. -/
theorem Event.placed_placeBy (tenths : Nat → Nat → Nat) (events : List Event) :
    Placed (placeBy tenths) events where
  kept := unplaced_placeFrom tenths _ 0 0 events
  counted := by
    rw [List.range_eq_range']
    exact index_placeFrom tenths _ 0 0 events
  fixed := fixed_placeFrom tenths _ 0 0 events
  afresh := by
    intro earlier same
    have number (events : List Event) : advancing (events.map unplaced) = advancing events := by
      simp [advancing, List.countP_map, Function.comp_def, unplaced]
    rw [placeBy, placeBy, ← number earlier, ← number events, same,
      ← placeFrom_unplaced tenths _ 0 0 earlier, ← placeFrom_unplaced tenths _ 0 0 events, same]

/-- They go through the steps if the measure takes nearest tenths. This is asked for the
    number of counted events alone. -/
theorem Event.marches_placeBy (tenths : Nat → Nat → Nat) (events : List Event)
    (nearest : Nearest tenths (advancing events)) : Marches (placeBy tenths) events := by
  refine ⟨sharesBy tenths (advancing events), ?_, length_sharesBy _ _, nearest.paced⟩
  rw [placeBy, measured_placeFrom, sharesBy, List.map_map]
  rfl

/-- Events are placed whole, and those that advance the run go through its steps.

This holds of the shares as exact quotients for any number of steps, and of the
shares as they are measured in the binary format for up to 2³⁹ of them. -/
theorem progress_is_paced (events : List Event) :
    Event.Placed Event.place events ∧ Event.Placed (Event.placeBy exactTenths) events ∧
      Event.Marches (Event.placeBy exactTenths) events ∧
      (Event.advancing events ≤ 2 ^ 39 → Event.Marches Event.place events) := by
  refine ⟨Event.placed_placeBy roundedTenths events, Event.placed_placeBy exactTenths events,
    ?_, ?_⟩
  · exact Event.marches_placeBy exactTenths events (nearest_exactTenths _)
  · intro short
    exact Event.marches_placeBy roundedTenths events (nearest_roundedTenths _ short)

/-- A run of three steps, with a phase marked in between. -/
def threeSteps : List Event :=
  [{ kind := .sessionStart }, { kind := .phaseMarker, phase := some ("cloning" : Text) },
    { kind := .agentThinking }, { kind := .shellCommand }, { kind := .toolCall }]

/-- The steps are a third of the run each, to the nearest tenth of a percent. The events
    between them have the shares of their kinds. -/
theorem three_steps_are_paced :
    Event.advancing threeSteps ≤ 2 ^ 39 ∧
      (Event.place threeSteps).map (·.progress) =
        [.tenths 333, .whole 5, .tenths 667, .whole 0, .tenths 1000] ∧
      Event.Marches Event.place threeSteps := by
  have few : Event.advancing threeSteps ≤ 2 ^ 39 := by decide
  exact ⟨few, by decide +kernel, (progress_is_paced threeSteps).2.2.2 few⟩

end AgentRuns
