import AgentRuns.Proofs.Text.Classes
import AgentRuns.Proofs.Text.Digits
import AgentRuns.Proofs.Text.Lines
import AgentRuns.Text.Case

/-!
# Text without escape characters

Nothing that is done to a text to show it brings an escape character in: it is cut,
split into lines, aligned by spaces, abridged by points, put in capital letters. No
letter has an escape character in its capital form, since all capital forms lie
beyond the controls.
-/

namespace AgentRuns.Text

/-- A text without an escape character. -/
def Unescaped (text : Text) : Prop := CodePoint.char '\x1b' ∉ text

instance (text : Text) : Decidable (Unescaped text) :=
  inferInstanceAs (Decidable (CodePoint.char '\x1b' ∉ text))

/-- The digits of a count are no escape characters. -/
theorem unescaped_ofNat (count : Nat) : Unescaped (ofNat count) :=
  notMem_ofNat (.char '\x1b') rfl count

/-- The sign and the digits of an integer are no escape characters. -/
theorem unescaped_ofInt (number : Int) : Unescaped (ofInt number) :=
  notMem_ofInt (.char '\x1b') rfl nofun number

/-- A character that is no escape character may be repeated. -/
theorem unescaped_replicate (count : Nat) (c : CodePoint) (noEscape : c ≠ .char '\x1b') :
    Unescaped (List.replicate count c) :=
  fun escape => noEscape (List.eq_of_mem_replicate escape).symm

/-- A number is taken for the escape character only if it is its number. Numbers that are no
    character's stand for the null character. -/
theorem ofNat_eq_escape (code : Nat) (same : CodePoint.ofNat code = .char '\x1b') :
    code = 0x1B := by
  unfold CodePoint.ofNat at same
  split at same
  · cases same
  · exact CodePoint.number_of_ofNat code '\x1b' (CodePoint.char.inj same) (by decide)

/-- No capital form of another character holds an escape character. The table of capital forms
    has been looked through for it. -/
theorem unescaped_upperPoint (c : CodePoint) (noEscape : c ≠ .char '\x1b') :
    Unescaped (upperPoint c) := by
  unfold upperPoint
  split
  · rename_i codes found
    have listed : ∀ entry ∈ upperExpansions, 0x1B ∉ entry.2 := by decide +kernel
    obtain ⟨before, behind, whole, _⟩ := List.lookup_eq_some_iff.mp found
    have clean := listed (c.toNat, codes) (by simp [whole])
    intro escape
    obtain ⟨code, member, same⟩ := List.mem_map.mp escape
    exact clean (ofNat_eq_escape code same ▸ member)
  · split
    · rename_i code found
      have beyond : ∀ run ∈ upperRuns, 0x1B < run.image := by decide +kernel
      obtain ⟨run, here, moved⟩ := Option.map_eq_some_iff.mp found
      have above := beyond run (List.mem_of_find?_eq_some here)
      intro escape
      have number := ofNat_eq_escape code (List.mem_singleton.mp escape).symm
      omega
    · intro escape
      exact noEscape (List.mem_singleton.mp escape).symm

namespace Unescaped

variable {text : Text} (unescaped : Unescaped text)

include unescaped

/-- Nothing is in a part that is not in the whole. Parts may have their characters in any
    order. -/
theorem part {part : Text} (inside : part ⊆ text) : Unescaped part :=
  fun escape => unescaped (inside escape)

/-- Two parts without escape characters have none together. -/
theorem append {more : Text} (others : Unescaped more) : Unescaped (text ++ more) := by
  intro escape
  rcases List.mem_append.mp escape with first | second
  · exact unescaped first
  · exact others second

/-- The start of a text without escape characters has none. -/
theorem take (count : Nat) : Unescaped (text.take count) :=
  unescaped.part (List.take_subset count text)

/-- The lines of a text without escape characters have none. -/
theorem lines : ∀ line ∈ text.lines, Unescaped line := fun line member =>
  unescaped.part fun c inside => (of_mem_lines text line member c inside).1

/-- A text without escape characters has none when it is abridged. The three points that mark
    the cut are none. -/
theorem abridge (limit : Nat) : Unescaped (abridge limit text) := by
  unfold Text.abridge
  split
  · exact unescaped
  · exact (unescaped.take limit).append (by decide)

/-- Spaces before a text bring no escape character in. -/
theorem alignRight (width : Nat) : Unescaped (alignRight width text) :=
  (unescaped_replicate (width - text.length) (.char ' ') nofun).append unescaped

/-- Spaces behind a text bring no escape character in. -/
theorem alignLeft (width : Nat) : Unescaped (alignLeft width text) :=
  unescaped.append (unescaped_replicate (width - text.length) (.char ' ') nofun)

/-- The capital form of a text without escape characters has none, character by character. -/
theorem upper : Unescaped (upper text) := by
  intro escape
  obtain ⟨c, member, drawn⟩ := List.mem_flatMap.mp escape
  exact unescaped_upperPoint c (fun same => unescaped (same ▸ member)) drawn

end Unescaped

end AgentRuns.Text
