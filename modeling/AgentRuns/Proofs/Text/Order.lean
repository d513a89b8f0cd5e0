import AgentRuns.Text.Basic

/-!
# The order of texts

The first place where two texts differ decides which of them comes first, and a
text comes before all that continue it. Two texts can always be compared, and no
two different ones come before each other, so the first text of a kind in a sorted
list is the least of its kind.
-/

namespace AgentRuns

/-- Code points of one number are the same. A half of a pair has a number that no character
    has. -/
theorem CodePoint.eq_of_toNat_eq (point other : CodePoint) (same : point.toNat = other.toNat) :
    point = other := by
  rw [← ofNat_toNat point, same, ofNat_toNat]

namespace Text

/-- A text comes before another one by its first character, or by what follows it. The
    characters are compared by their numbers. -/
theorem le_cons_cons (c d : CodePoint) (text other : Text) :
    le (c :: text) (d :: other) = true ↔
      c.toNat < d.toNat ∨ c = d ∧ le text other = true := by
  simp [le]

/-- Of two texts one comes first. So a list of texts can be sorted. -/
theorem le_total (text other : Text) : (le text other || le other text) = true := by
  rw [Bool.or_eq_true]
  induction text generalizing other with
  | nil => exact Or.inl rfl
  | cons c text inductionHypothesis =>
    cases other with
    | nil => exact Or.inr rfl
    | cons d other =>
      simp only [le_cons_cons]
      rcases Nat.lt_trichotomy c.toNat d.toNat with before | same | behind
      · exact Or.inl (Or.inl before)
      · have equal := CodePoint.eq_of_toNat_eq c d same
        exact (inductionHypothesis other).imp (Or.inr ⟨equal, ·⟩) (Or.inr ⟨equal.symm, ·⟩)
      · exact Or.inr (Or.inl behind)

/-- What comes before a text comes before all that the text comes before. -/
theorem le_trans (text other third : Text) (first : le text other = true)
    (second : le other third = true) : le text third = true := by
  induction text generalizing other third with
  | nil => rfl
  | cons c text inductionHypothesis =>
    cases other with
    | nil => cases first
    | cons d other =>
      cases third with
      | nil => cases second
      | cons e third =>
        rw [le_cons_cons] at first second ⊢
        rcases first with before | ⟨rfl, first⟩
        · rcases second with further | ⟨rfl, _⟩
          · exact Or.inl (Nat.lt_trans before further)
          · exact Or.inl before
        · exact second.imp_right fun ⟨same, second⟩ =>
            ⟨same, inductionHypothesis other third first second⟩

/-- Texts that come before each other are the same. So the order has no ties among different
    texts. -/
theorem le_antisymm (text other : Text) (first : le text other = true)
    (second : le other text = true) : text = other := by
  induction text generalizing other with
  | nil =>
    cases other with
    | nil => rfl
    | cons => cases second
  | cons c text inductionHypothesis =>
    cases other with
    | nil => cases first
    | cons d other =>
      rw [le_cons_cons] at first second
      rcases first with before | ⟨rfl, first⟩
      · rcases second with behind | ⟨rfl, _⟩ <;> omega
      · rcases second with impossible | ⟨_, second⟩
        · exact absurd impossible (Nat.lt_irrefl _)
        · rw [inductionHypothesis other first second]

/-- In a sorted list the first member of a kind is the least of that kind. No member of the
    kind comes before it, and it is the only such one. -/
theorem find?_sorted (texts : List Text)
    (sorted : texts.Pairwise fun text other => le text other = true) (kind : Text → Bool)
    (text : Text) :
    texts.find? kind = some text ↔ (text ∈ texts ∧ kind text = true) ∧
      ∀ other ∈ texts, kind other = true → le text other = true := by
  have least (found : Text) (here : texts.find? kind = some found) :
      ∀ other ∈ texts, kind other = true → le found other = true := by
    intro other member ofKind
    obtain ⟨_, before, behind, rfl, earlier⟩ := List.find?_eq_some_iff_append.mp here
    rw [List.pairwise_append, List.pairwise_cons] at sorted
    rcases List.mem_append.mp member with inFront | notInFront
    · have notOfKind := earlier other inFront
      rw [ofKind] at notOfKind
      cases notOfKind
    · rcases List.mem_cons.mp notInFront with rfl | later
      · simpa using le_total other other
      · exact sorted.2.1.1 other later
  constructor
  · intro here
    exact ⟨⟨List.mem_of_find?_eq_some here, List.find?_some here⟩, least text here⟩
  · rintro ⟨⟨member, ofKind⟩, leastOfAll⟩
    have some : (texts.find? kind).isSome = true := List.find?_isSome.mpr ⟨text, member, ofKind⟩
    obtain ⟨found, here⟩ := Option.isSome_iff_exists.mp some
    have first := least found here text member ofKind
    have second := leastOfAll found (List.mem_of_find?_eq_some here) (List.find?_some here)
    rw [here, le_antisymm found text first second]

end Text

end AgentRuns
