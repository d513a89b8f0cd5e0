import Mathlib.Data.List.Basic

/-!
# Steps that may fail

A row of steps has a result if each of them has one, and it fails where the first of
them fails.
-/

namespace AgentRuns

/-- What has a result in two steps has one in the first, and the second step has the whole
    result on it. -/
theorem ok_of_bind {ε α β : Type} (first : Except ε α) (next : α → Except ε β) (result : β)
    (done : first >>= next = .ok result) :
    ∃ value, first = .ok value ∧ next value = .ok result := by
  cases first with
  | error reason => cases done
  | ok value => exact ⟨value, rfl, done⟩

/-- What has a result after a change has one before it, and the change makes the one of the
    other. -/
theorem ok_of_map {ε α β : Type} (first : Except ε α) (change : α → β) (result : β)
    (done : first.map change = .ok result) :
    ∃ value, first = .ok value ∧ change value = result := by
  cases first with
  | error reason => cases done
  | ok value => exact ⟨value, rfl, Except.ok.inj done⟩

/-- A change of the result changes no failure. The reason stays the same in both directions. -/
theorem map_eq_error {ε α β : Type} (first : Except ε α) (change : α → β) (reason : ε) :
    first.map change = .error reason ↔ first = .error reason := by
  cases first with
  | error other => simp [Except.map]
  | ok value => simp [Except.map]

/-- A reading of some items begins with a step. The step has a result, and so has the reading
    of the rest on it. -/
theorem ok_of_foldlM {ε α γ : Type} (step : α → γ → Except ε α) (item : γ) (rest : List γ)
    (state final : α) (done : (item :: rest).foldlM step state = .ok final) :
    ∃ next, step state item = .ok next ∧ rest.foldlM step next = .ok final := by
  rw [List.foldlM_cons] at done
  exact ok_of_bind _ _ final done

/-- Readings that agree step by step under a projection agree as a whole. They fail on the
    same items for the same reasons, and the projection is made of the last state only. -/
theorem foldlM_project {α β γ ε : Type} (project : α → β) (step : α → γ → Except ε α)
    (other : β → γ → Except ε β)
    (agree : ∀ state item, (step state item).map project = other (project state) item)
    (items : List γ) (state : α) :
    (items.foldlM step state).map project = items.foldlM other (project state) := by
  induction items generalizing state with
  | nil => rfl
  | cons item rest inductionHypothesis =>
    rw [List.foldlM_cons, List.foldlM_cons, ← agree state item]
    cases step state item with
    | error reason => rfl
    | ok next => exact inductionHypothesis next

/-- A row of steps has a result if each of them has one. The results stand side by side with
    the items they are of. -/
theorem ok_of_mapM {ε α β : Type} (step : α → Except ε β) (items : List α) (results : List β)
    (done : items.mapM step = .ok results) :
    List.Forall₂ (fun item result => step item = .ok result) items results := by
  induction items generalizing results with
  | nil =>
    cases done
    exact .nil
  | cons item rest inductionHypothesis =>
    rw [List.mapM_cons] at done
    obtain ⟨result, given, further⟩ := ok_of_bind _ _ results done
    obtain ⟨others, later, finished⟩ := ok_of_bind _ _ results further
    cases finished
    exact .cons given (inductionHypothesis others later)

/-- Two steps fail where the first one does, or where the second one does after
    the first. -/
theorem bind_eq_error {ε α β : Type} (first : Except ε α) (next : α → Except ε β) (reason : ε) :
    first >>= next = .error reason ↔
      first = .error reason ∨ ∃ value, first = .ok value ∧ next value = .error reason := by
  cases first with
  | error other => simp [bind, Except.bind]
  | ok value => simp [bind, Except.bind]

/-- A row of steps fails where the first of them fails. All before it have results, and
    nothing is said of those behind it. -/
theorem mapM_eq_error {ε α β : Type} (step : α → Except ε β) (items : List α) (reason : ε) :
    items.mapM step = .error reason ↔ ∃ before item after, items = before ++ item :: after ∧
      (∀ earlier ∈ before, ∃ value, step earlier = .ok value) ∧ step item = .error reason := by
  induction items with
  | nil => simp [pure, Except.pure]
  | cons first rest inductionHypothesis =>
    rw [List.mapM_cons, bind_eq_error]
    constructor
    · rintro (failed | ⟨value, done, further⟩)
      · exact ⟨[], first, rest, rfl, by simp, failed⟩
      · have later : rest.mapM step = .error reason := by
          rcases (bind_eq_error _ _ reason).mp further with failed | ⟨_, _, finished⟩
          · exact failed
          · cases finished
        obtain ⟨before, item, after, rfl, allDone, failed⟩ := inductionHypothesis.mp later
        refine ⟨first :: before, item, after, rfl, ?_, failed⟩
        intro earlier member
        rcases List.mem_cons.mp member with rfl | inside
        · exact ⟨value, done⟩
        · exact allDone earlier inside
    · rintro ⟨before, item, after, split, allDone, failed⟩
      cases before with
      | nil =>
        obtain ⟨rfl, rfl⟩ := List.cons.inj split
        exact Or.inl failed
      | cons other before =>
        obtain ⟨rfl, rfl⟩ := List.cons.inj split
        obtain ⟨value, done⟩ := allDone first List.mem_cons_self
        have later := inductionHypothesis.mpr ⟨before, item, after, rfl,
          fun earlier member => allDone earlier (List.mem_cons_of_mem first member), failed⟩
        exact Or.inr ⟨value, done, (bind_eq_error _ _ reason).mpr (Or.inl later)⟩

end AgentRuns
