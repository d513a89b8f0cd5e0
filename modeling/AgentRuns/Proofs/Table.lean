import AgentRuns.Table
import Mathlib.Data.List.Induction
import Mathlib.Algebra.Ring.Int.Defs

/-!
# Tables written over

Entries that are written over a table in order leave under every key the last
value that was written there, or the one that was there before. Entries with keys
of their own stand one behind the other as they were written. A table that lists keys
with what each of them has is written over in place.
-/

namespace AgentRuns.Table

variable {α β : Type}

/-- A new key stands at the end. The entries before it keep their places and their values. -/
theorem put_fresh (table : Table α) (key : Text) (value : α)
    (fresh : key ∉ table.map Prod.fst) : table.put key value = table ++ [(key, value)] := by
  induction table with
  | nil => rfl
  | cons entry rest inductionHypothesis =>
    obtain ⟨first, old⟩ := entry
    simp only [List.map_cons, List.mem_cons, not_or] at fresh
    have other : first ≠ key := fun same => fresh.1 same.symm
    rw [put, if_neg other, inductionHypothesis fresh.2]
    rfl

/-- Entries with keys of their own are written one behind the other. It is asked that all keys
    are distinct, those of the table and those of the entries together. -/
theorem overlay_fresh (table entries : Table α)
    (distinct : ((table ++ entries).map Prod.fst).Nodup) :
    table.overlay entries = table ++ entries := by
  induction entries generalizing table with
  | nil => exact (List.append_nil table).symm
  | cons entry rest inductionHypothesis =>
    obtain ⟨key, value⟩ := entry
    have fresh : key ∉ table.map Prod.fst := by
      intro member
      rw [List.map_append, List.map_cons, List.nodup_append] at distinct
      exact distinct.2.2 key member key List.mem_cons_self rfl
    have moved : table ++ (key, value) :: rest = (table ++ [(key, value)]) ++ rest := by simp
    rw [moved] at distinct ⊢
    rw [← inductionHypothesis _ distinct, ← table.put_fresh key value fresh]
    rfl

/-- Entries with distinct keys are a table as they are. Nothing is moved and nothing is
    written twice. -/
theorem ofEntries_of_nodup (entries : Table α) (distinct : (entries.map Prod.fst).Nodup) :
    ofEntries entries = entries :=
  overlay_fresh [] entries distinct

/-- A value that is found stands in the table under its key. Whether the key stands there once
    makes no difference. -/
theorem mem_of_get? (table : Table α) (key : Text) (value : α)
    (found : table.get? key = some value) : (key, value) ∈ table := by
  obtain ⟨before, behind, rfl, _⟩ := List.lookup_eq_some_iff.mp found
  simp

/-- An entry that stands in a table after a value was written stood there before,
    or was written. -/
theorem mem_of_put (table : Table α) (key : Text) (value : α) (entry : Text × α)
    (member : entry ∈ table.put key value) : entry ∈ table ∨ entry = (key, value) := by
  induction table with
  | nil => exact Or.inr (List.mem_singleton.mp member)
  | cons first rest inductionHypothesis =>
    rw [put] at member
    split at member
    · rcases List.mem_cons.mp member with here | later
      · exact Or.inr here
      · exact Or.inl (List.mem_cons_of_mem first later)
    · rcases List.mem_cons.mp member with rfl | later
      · exact Or.inl List.mem_cons_self
      · exact (inductionHypothesis later).imp_left (List.mem_cons_of_mem first)

/-- The entries of a table are among those that it was made of. Of entries with one key the
    last value stands in the place of the first. -/
theorem mem_of_ofEntries (entries : List (Text × α)) (entry : Text × α)
    (member : entry ∈ ofEntries entries) : entry ∈ entries := by
  -- The last entry is written last, so the induction takes it off first.
  induction entries using List.reverseRecOn with
  | nil => exact member
  | append_singleton entries last inductionHypothesis =>
    rw [ofEntries, List.foldl_append] at member
    rcases mem_of_put _ _ _ entry member with before | here
    · exact List.mem_append_left _ (inductionHypothesis before)
    · exact List.mem_append_right _ (List.mem_singleton.mpr here)

/-- A value that is found after entries were written over a table was found
    before, or is one of the entries'. -/
theorem found_of_overlay (table changes : Table α) (key : Text) (value : α)
    (found : (table.overlay changes).get? key = some value) :
    table.get? key = some value ∨ (key, value) ∈ changes := by
  induction changes generalizing table with
  | nil => exact Or.inl found
  | cons first changes inductionHypothesis =>
    obtain ⟨other, written⟩ := first
    rcases inductionHypothesis (table.put other written) found with before | later
    · rw [get?_put] at before
      split at before
      · rename_i same
        cases before
        exact Or.inr (same ▸ List.mem_cons_self)
      · exact Or.inl before
    · exact Or.inr (List.mem_cons_of_mem _ later)

/-- What is written over a table stands before what was there. A look-up asks the entries
    first, and the table only for a key that is none of theirs. -/
theorem get?_overlay (table changes : Table α) (key : Text) :
    (table.overlay changes).get? key = ((ofEntries changes).get? key).or (table.get? key) := by
  -- The last entry decides, so the induction takes it off first.
  induction changes using List.reverseRecOn with
  | nil => rfl
  | append_singleton changes last inductionHypothesis =>
    obtain ⟨other, written⟩ := last
    have lastly : table.overlay (changes ++ [(other, written)]) =
        (table.overlay changes).put other written := by
      rw [overlay, List.foldl_append]
      rfl
    have alone : ofEntries (changes ++ [(other, written)]) =
        (ofEntries changes).put other written := by
      rw [ofEntries, List.foldl_append]
      rfl
    rw [lastly, alone, get?_put, get?_put, inductionHypothesis]
    split <;> rfl

/-- Only keys of the entries have a value. A key that none of them has is found nowhere. -/
theorem get?_ofEntries_of_notMem (entries : Table α) (key : Text)
    (absent : key ∉ entries.map Prod.fst) : (ofEntries entries).get? key = none := by
  cases found : (ofEntries entries).get? key with
  | none => rfl
  | some value =>
    rcases found_of_overlay [] entries key value found with none | given
    · cases none
    · exact absurd (List.mem_map_of_mem given) absent

/-- A value that is made of each other value is found under the same key. Keys are left alone,
    so the first entry of a key stays the first. -/
theorem get?_map (table : Table α) (f : α → β) (key : Text) :
    Table.get? (table.map fun entry => (entry.1, f entry.2)) key = (table.get? key).map f := by
  induction table with
  | nil => rfl
  | cons entry rest inductionHypothesis =>
    obtain ⟨first, value⟩ := entry
    by_cases here : key = first
    · simp [get?, here]
    · simpa [get?, List.lookup_cons, beq_false_of_ne here] using inductionHypothesis

/-- The value of a key in a table that lists keys with what each of them has. The keys need
    not be distinct, because all entries of one key have the same value. -/
theorem get?_keyed (keys : List Text) (value : Text → α) (key : Text) :
    Table.get? (keys.map fun key => (key, value key)) key =
      if key ∈ keys then some (value key) else none := by
  induction keys with
  | nil => rfl
  | cons first rest inductionHypothesis =>
    rw [get?] at inductionHypothesis ⊢
    by_cases here : key = first
    · simp [here]
    · simp [List.lookup_cons, beq_false_of_ne here, inductionHypothesis, here]

/-- Writing a key of such a table changes what the key has and nothing else. Distinct keys are
    needed here: writing stops at the first entry of the key. -/
theorem put_keyed (keys : List Text) (value : Text → α) (key : Text) (written : α)
    (distinct : keys.Nodup) (listed : key ∈ keys) :
    Table.put key written (keys.map fun key => (key, value key)) =
      keys.map fun other => (other, if other = key then written else value other) := by
  induction keys with
  | nil => cases listed
  | cons first rest inductionHypothesis =>
    obtain ⟨fresh, others⟩ := List.nodup_cons.mp distinct
    rw [List.map_cons, List.map_cons, put]
    by_cases here : first = key
    · subst here
      rw [if_pos rfl, if_pos rfl]
      congr 1
      apply List.map_congr_left
      intro other member
      have different : other ≠ first := fun same => fresh (same ▸ member)
      rw [if_neg different]
    · have later : key ∈ rest := (List.mem_cons.mp listed).resolve_left fun same => here same.symm
      rw [if_neg here, if_neg here, inductionHypothesis others later]

/-- One more count adds one to the sum of all counts, whether the key was counted before or
    not. -/
theorem sum_tally (key : Text) (table : Table Int) :
    ((table.tally key).map Prod.snd).sum = (table.map Prod.snd).sum + 1 := by
  unfold tally
  induction table with
  | nil => rfl
  | cons entry rest inductionHypothesis =>
    obtain ⟨first, count⟩ := entry
    simp only [get?] at inductionHypothesis ⊢
    rw [put]
    by_cases here : first = key
    · simp only [here, if_true, List.lookup_cons_self, Option.getD_some, List.map_cons,
        List.sum_cons]
      omega
    · have other : key ≠ first := fun same => here same.symm
      rw [if_neg here, List.lookup_cons, beq_false_of_ne other]
      simp only [List.map_cons, List.sum_cons]
      rw [inductionHypothesis]
      omega

end AgentRuns.Table
