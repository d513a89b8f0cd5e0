import AgentRuns.Proofs.Json.Reading

/-!
# Brackets and room

A bracket opens a level, and no other character does. So a reader that blames its room has
met more brackets than it has room for, and a text with few brackets is never refused for
its nesting. This needs nothing but a count of characters. It is no more than a bound: the
brackets may stand beside each other, or in strings, and a text with many of them can be
read as well.

Each reader leaves an end of the text over. What is refused further right has therefore no
more brackets than the whole text, and behind a bracket there is one bracket less and one
level less.
-/

namespace AgentRuns.Json

/-- Whether the character can open a level. -/
def opensLevel (c : CodePoint) : Bool := c == '[' || c == '{'

/-- How many characters of the text can open a level, those in strings among them. -/
def brackets (text : Text) : Nat := text.countP opensLevel

/-- An end of a text has no more brackets than the text. So what is left over by a reader can
    be blamed on the whole. -/
theorem brackets_suffix {ending text : Text} (suffix : ending <:+ text) :
    brackets ending ≤ brackets text :=
  suffix.sublist.countP_le

/-- A bracket at the start of a text counts beside those behind it. This is the one place
    where a level is counted. -/
theorem brackets_cons (opening : CodePoint) (rest : Text) (opens : opensLevel opening = true) :
    brackets (opening :: rest) = brackets rest + 1 :=
  List.countP_cons_of_pos opens

/-- A reader that blames its room only for texts with more brackets than that. -/
def Blames {α : Type} (room : Nat) (reader : Text → Except Refusal α) : Prop :=
  ∀ text bracket, reader text = .error (.tooDeep bracket) → room < brackets text

/-- What is read without any room does not blame it. Strings, words and numbers are read like
    that. -/
theorem orMalformed_ne_tooDeep {α : Type} (read : Option α) (bracket : Bracket) :
    orMalformed read ≠ .error (.tooDeep bracket) := by
  cases read <;> simp [orMalformed]

/-- A bracket with no room before it is one bracket more than there is room for. With some
    room the reader behind the bracket has one level less, and its text one bracket less. -/
theorem blames_behind {α : Type} (room : Nat) (opening : CodePoint) (kind bracket : Bracket)
    (rest : Text) (opens : opensLevel opening = true) (next : Nat → Except Refusal α)
    (blames : ∀ less, next less = .error (.tooDeep bracket) → less < brackets rest)
    (refused : enter kind room >>= next = .error (.tooDeep bracket)) :
    room < brackets (opening :: rest) := by
  rw [brackets_cons opening rest opens]
  cases room with
  | zero => exact Nat.succ_pos _
  | succ less => exact Nat.succ_lt_succ (blames less refused)

section

variable (lenient : Bool)

/-- A value blames its room only for more brackets, if its items and fields do. They are read
    in the room that is left behind the bracket. -/
theorem readValue_blames (bound : Nat)
    (items : ∀ room, Blames room (readItems lenient bound room))
    (fields : ∀ room, Blames room (readFields lenient bound room)) (room : Nat) :
    Blames room (readValue lenient (bound + 1) room) := by
  intro text bracket refused
  unfold readValue at refused
  split at refused
  case h_1 behind =>
    exact absurd ((map_eq_error _ _ _).mp refused) (orMalformed_ne_tooDeep _ bracket)
  case h_2 behind =>
    refine blames_behind room (.char '[') .list bracket behind rfl _ (fun less inner => ?_) refused
    dsimp only at inner
    split at inner
    · cases inner
    · have beyond := items less _ bracket ((map_eq_error _ _ _).mp inner)
      exact Nat.lt_of_lt_of_le beyond (brackets_suffix (skipSpace_suffix behind))
  case h_3 behind =>
    refine blames_behind room (.char '{') .object bracket behind rfl _ (fun less inner => ?_)
      refused
    dsimp only at inner
    split at inner
    · cases inner
    · have beyond := fields less _ bracket ((map_eq_error _ _ _).mp inner)
      exact Nat.lt_of_lt_of_le beyond (brackets_suffix (skipSpace_suffix behind))
  case h_4 => exact absurd refused (orMalformed_ne_tooDeep _ bracket)

/-- Items blame their room only for more brackets, if values and further items do. The further
    ones stand at an end of the text. -/
theorem readItems_blames (bound room : Nat)
    (values : Blames room (readValue lenient bound room))
    (items : Blames room (readItems lenient bound room)) :
    Blames room (readItems lenient (bound + 1) room) := by
  intro text bracket refused
  unfold readItems at refused
  rcases (bind_eq_error _ _ _).mp refused with failed | ⟨⟨item, behind⟩, itemRead, refused⟩
  · exact values text bracket failed
  · have afterItem := ((bounded_yields (string?_yields lenient) bound).1 room text item behind
      (fun _ _ => trivial) itemRead).2
    have behindItem := (skipSpace_suffix behind).trans afterItem
    dsimp only at refused
    split at refused
    case h_1 more comma =>
      rw [comma] at behindItem
      have next := ((skipSpace_suffix more).trans (List.suffix_cons _ more)).trans behindItem
      rcases (bind_eq_error _ _ _).mp refused with failed | ⟨_, _, done⟩
      · exact Nat.lt_of_lt_of_le (items _ bracket failed) (brackets_suffix next)
      · cases done
    case h_2 => cases refused
    case h_3 => cases refused

/-- Fields blame their room only for more brackets, if values and further fields do. A key never
    blames it. -/
theorem readFields_blames (bound room : Nat)
    (values : Blames room (readValue lenient bound room))
    (fields : Blames room (readFields lenient bound room)) :
    Blames room (readFields lenient (bound + 1) room) := by
  intro text bracket refused
  unfold readFields at refused
  split at refused
  case h_2 => cases refused
  case h_1 quoted =>
    have opened : quoted <:+ .char '"' :: quoted := List.suffix_cons _ _
    rcases (bind_eq_error _ _ _).mp refused with failed | ⟨⟨key, behindKey⟩, keyRead, refused⟩
    · exact absurd failed (orMalformed_ne_tooDeep _ bracket)
    have afterKey := (string?_yields lenient quoted key behindKey (fun _ _ => trivial) keyRead).2
    have colonAt := ((skipSpace_suffix behindKey).trans afterKey).trans opened
    dsimp only at refused
    split at refused
    case h_2 => cases refused
    case h_1 behindColon colon =>
      rw [colon] at colonAt
      have valueAt := ((skipSpace_suffix behindColon).trans (List.suffix_cons _ _)).trans colonAt
      rcases (bind_eq_error _ _ _).mp refused with failed | ⟨⟨value, behind⟩, valueRead, refused⟩
      · exact Nat.lt_of_lt_of_le (values _ bracket failed) (brackets_suffix valueAt)
      have afterValue := ((bounded_yields (string?_yields lenient) bound).1 room _ value behind
        (fun _ _ => trivial) valueRead).2
      have behindValue := ((skipSpace_suffix behind).trans afterValue).trans valueAt
      dsimp only at refused
      split at refused
      case h_1 more comma =>
        rw [comma] at behindValue
        have next := ((skipSpace_suffix more).trans (List.suffix_cons _ more)).trans behindValue
        rcases (bind_eq_error _ _ _).mp refused with failed | ⟨_, _, done⟩
        · exact Nat.lt_of_lt_of_le (fields _ bracket failed) (brackets_suffix next)
        · cases done
      case h_2 => cases refused
      case h_3 => cases refused

/-- Readers within any bound and in any room blame it only for more brackets. The induction is
    on the bound and goes for the three of them at a time. -/
theorem bounded_blames (bound : Nat) :
    (∀ room, Blames room (readValue lenient bound room)) ∧
      (∀ room, Blames room (readItems lenient bound room)) ∧
      ∀ room, Blames room (readFields lenient bound room) := by
  induction bound with
  | zero =>
    refine ⟨?_, ?_, ?_⟩
    all_goals
      intro room text bracket refused
      cases refused
  | succ bound inductionHypothesis =>
    obtain ⟨values, items, fields⟩ := inductionHypothesis
    exact ⟨readValue_blames lenient bound items fields,
      fun room => readItems_blames lenient bound room (values room) (items room),
      fun room => readFields_blames lenient bound room (values room) (fields room)⟩

end

/-- A text is refused for its nesting only if it has more brackets than there is room for.
    What the text writes otherwise has no part in it. -/
theorem room_lt_brackets (lenient : Bool) (room : Nat) : Blames room (read lenient room) := by
  intro text bracket refused
  rcases (bind_eq_error _ _ _).mp refused with failed | ⟨_, _, ended⟩
  · have beyond := (bounded_blames lenient _).1 room _ bracket failed
    exact Nat.lt_of_lt_of_le beyond (brackets_suffix (skipSpace_suffix text))
  · dsimp only at ended
    split at ended <;> cases ended

end AgentRuns.Json
