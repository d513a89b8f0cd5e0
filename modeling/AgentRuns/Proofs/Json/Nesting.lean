import AgentRuns.Json.Reader
import AgentRuns.Proofs.Except

/-!
# Nesting and room

A reader opens no more levels within each other than it was given, and it is told apart
whether a text was refused for that or for being malformed. More room changes no other
answer: what was read is read, and what was malformed is malformed. So all readers that
do not run out of room agree.

The room that a value takes is the number of levels that it nests. What the writer makes
of the value is read wherever there is as much, which is told with the other laws of
writing and reading.
-/

namespace AgentRuns.Json

/-! ## The levels of a value -/

mutual

/-- The number of lists and objects that stand within each other in the value. -/
def nesting : Json → Nat
  | .list items => nestingOfItems items + 1
  | .object fields => nestingOfFields fields + 1
  | _ => 0

/-- The levels of the item that nests deepest. -/
def nestingOfItems : List Json → Nat
  | [] => 0
  | item :: items => max (nesting item) (nestingOfItems items)

/-- The levels of the field that nests deepest. -/
def nestingOfFields : List (Text × Json) → Nat
  | [] => 0
  | (_, value) :: fields => max (nesting value) (nestingOfFields fields)

end

/-- Items fit into a room if each of them does. They stand beside each other, so it is the one
    that nests deepest that counts. -/
theorem nestingOfItems_le (items : List Json) (room : Nat) :
    nestingOfItems items ≤ room ↔ ∀ item ∈ items, item.nesting ≤ room := by
  induction items with
  | nil => simp [nestingOfItems]
  | cons item items inductionHypothesis =>
    rw [nestingOfItems, Nat.max_le, inductionHypothesis, List.forall_mem_cons]

/-- Fields fit into a room if the value of each of them does. A key is a text and takes no
    level. -/
theorem nestingOfFields_le (fields : List (Text × Json)) (room : Nat) :
    nestingOfFields fields ≤ room ↔ ∀ field ∈ fields, field.2.nesting ≤ room := by
  induction fields with
  | nil => simp [nestingOfFields]
  | cons field fields inductionHypothesis =>
    rw [nestingOfFields, Nat.max_le, inductionHypothesis, List.forall_mem_cons]

/-- There is room for a list where there is a level for its bracket and, behind that,
    room for its items. -/
theorem nesting_list_le (items : List Json) (room : Nat) :
    (list items).nesting ≤ room ↔
      ∃ less, room = less + 1 ∧ ∀ item ∈ items, item.nesting ≤ less := by
  rw [nesting]
  constructor
  · intro fits
    exact ⟨room - 1, by omega, (nestingOfItems_le items _).mp (by omega)⟩
  · rintro ⟨less, rfl, fits⟩
    exact Nat.succ_le_succ ((nestingOfItems_le items less).mpr fits)

/-- There is room for an object where there is a level for its brace and, behind that,
    room for its fields. -/
theorem nesting_object_le (fields : List (Text × Json)) (room : Nat) :
    (object fields).nesting ≤ room ↔
      ∃ less, room = less + 1 ∧ ∀ field ∈ fields, field.2.nesting ≤ less := by
  rw [nesting]
  constructor
  · intro fits
    exact ⟨room - 1, by omega, (nestingOfFields_le fields _).mp (by omega)⟩
  · rintro ⟨less, rfl, fits⟩
    exact Nat.succ_le_succ ((nestingOfFields_le fields less).mpr fits)

/-! ## More room -/

/-- The outcome is an answer to the text: it does not blame the room. -/
def Answers {α : Type} (outcome : Except Refusal α) : Prop :=
  ∀ bracket, outcome ≠ .error (.tooDeep bracket)

/-- The one outcome is the other one wherever that is an answer. -/
def Extends {α : Type} (less more : Except Refusal α) : Prop := Answers less → more = less

/-- Every outcome gives its own answer again. So a step that makes no use of the room needs no
    argument. -/
theorem Extends.refl {α : Type} (outcome : Except Refusal α) : Extends outcome outcome :=
  fun _ => rfl

/-- Where a bracket opens a level too many nothing is answered, so there is nothing to
    give again. -/
theorem Extends.of_tooDeep {α : Type} (bracket : Bracket) (more : Except Refusal α) :
    Extends (.error (.tooDeep bracket)) more :=
  fun answers => absurd rfl (answers bracket)

/-- Readings one after the other give all answers again if each of them does. The second is
    asked about only where the first has answered with a value. -/
theorem Extends.bind {α β : Type} {less more : Except Refusal α}
    {next other : α → Except Refusal β} (first : Extends less more)
    (later : ∀ value, Extends (next value) (other value)) :
    Extends (less >>= next) (more >>= other) := by
  intro answers
  cases less with
  | ok value =>
    rw [first (fun _ => nofun)]
    exact later value answers
  | error refusal =>
    rw [first fun bracket same => answers bracket (by rw [same]; rfl)]
    rfl

/-- What is made of an answer is given again if the answer is. -/
theorem Extends.map {α β : Type} {less more : Except Refusal α} (change : α → β)
    (first : Extends less more) : Extends (less.map change) (more.map change) := by
  intro answers
  rw [first fun bracket same => answers bracket (by rw [same]; rfl)]

section Readers

variable (lenient : Bool) (bound : Nat)

/-- A value whose items and fields are answered again is answered again. A bracket is the one
    place where the room counts: with none left nothing is answered, and with some left more
    room leaves more behind the bracket as well. -/
theorem readValue_extends
    (items : ∀ room more text, room ≤ more →
      Extends (readItems lenient bound room text) (readItems lenient bound more text))
    (fields : ∀ room more text, room ≤ more →
      Extends (readFields lenient bound room text) (readFields lenient bound more text))
    (room more : Nat) (text : Text) (within : room ≤ more) :
    Extends (readValue lenient (bound + 1) room text)
      (readValue lenient (bound + 1) more text) := by
  unfold readValue
  split
  case h_1 => exact Extends.refl _
  case h_2 rest =>
    cases room with
    | zero => exact Extends.of_tooDeep .list _
    | succ room =>
      obtain ⟨more, rfl⟩ : ∃ less, more = less + 1 := ⟨more - 1, by omega⟩
      simp only [enter, bind, Except.bind]
      split
      · exact Extends.refl _
      · exact (items room more _ (by omega)).map _
  case h_3 rest =>
    cases room with
    | zero => exact Extends.of_tooDeep .object _
    | succ room =>
      obtain ⟨more, rfl⟩ : ∃ less, more = less + 1 := ⟨more - 1, by omega⟩
      simp only [enter, bind, Except.bind]
      split
      · exact Extends.refl _
      · exact (fields room more _ (by omega)).map _
  case h_4 => exact Extends.refl _

/-- Items are answered again if values and further items are. All of them are read in the room
    that is left behind the bracket of the list. -/
theorem readItems_extends
    (values : ∀ room more text, room ≤ more →
      Extends (readValue lenient bound room text) (readValue lenient bound more text))
    (items : ∀ room more text, room ≤ more →
      Extends (readItems lenient bound room text) (readItems lenient bound more text))
    (room more : Nat) (text : Text) (within : room ≤ more) :
    Extends (readItems lenient (bound + 1) room text)
      (readItems lenient (bound + 1) more text) := by
  unfold readItems
  refine (values room more text within).bind fun (item, rest) => ?_
  dsimp only
  split
  · exact (items room more _ within).bind fun _ => Extends.refl _
  · exact Extends.refl _
  · exact Extends.refl _

/-- Fields are answered again if values and further fields are. Keys are read without any
    room. -/
theorem readFields_extends
    (values : ∀ room more text, room ≤ more →
      Extends (readValue lenient bound room text) (readValue lenient bound more text))
    (fields : ∀ room more text, room ≤ more →
      Extends (readFields lenient bound room text) (readFields lenient bound more text))
    (room more : Nat) (text : Text) (within : room ≤ more) :
    Extends (readFields lenient (bound + 1) room text)
      (readFields lenient (bound + 1) more text) := by
  unfold readFields
  split
  · refine (Extends.refl _).bind fun (key, rest) => ?_
    dsimp only
    split
    · refine (values room more _ within).bind fun (value, rest) => ?_
      dsimp only
      split
      · exact (fields room more _ within).bind fun _ => Extends.refl _
      · exact Extends.refl _
      · exact Extends.refl _
    · exact Extends.refl _
  · exact Extends.refl _

/-- Readers within one bound give the answers of those with less room. The three of them call
    each other with a smaller bound, so the induction is on the bound and goes for all three
    at a time. -/
theorem bounded_extends :
    (∀ room more text, room ≤ more →
      Extends (readValue lenient bound room text) (readValue lenient bound more text)) ∧
    (∀ room more text, room ≤ more →
      Extends (readItems lenient bound room text) (readItems lenient bound more text)) ∧
    (∀ room more text, room ≤ more →
      Extends (readFields lenient bound room text) (readFields lenient bound more text)) := by
  induction bound with
  | zero =>
    refine ⟨?_, ?_, ?_⟩
    all_goals
      intro room more text within
      exact Extends.refl _
  | succ bound inductionHypothesis =>
    obtain ⟨values, items, fields⟩ := inductionHypothesis
    exact ⟨readValue_extends lenient bound items fields,
      readItems_extends lenient bound values items,
      readFields_extends lenient bound values fields⟩

end Readers

/-- A text that is answered with some room is answered alike with more. So what a text writes
    does not depend on the room, and the limits decide only which texts are refused. -/
theorem read_mono (lenient : Bool) (room more : Nat) (text : Text) (within : room ≤ more) :
    Extends (read lenient room text) (read lenient more text) :=
  ((bounded_extends lenient _).1 room more _ within).bind fun _ => Extends.refl _

/-- The value that is given is the one that was read. No other outcome looks like it. -/
theorem orNone_eq_some (outcome : Except Refusal Json) (value : Json) :
    orNone outcome = .ok (some value) ↔ outcome = .ok value := by
  rcases outcome with (_ | _) | _ <;> simp [orNone]

/-- Only nesting is left as a failure. The bracket that opened a level too many is the one
    that the failure names. -/
theorem orNone_eq_error (outcome : Except Refusal Json) (bracket : Bracket) :
    orNone outcome = .error bracket ↔ outcome = .error (.tooDeep bracket) := by
  rcases outcome with (_ | _) | _ <;> simp [orNone]

/-! ## Too many brackets -/

/-- As many lists within each other as there is room for and one more are too many,
    whatever stands behind their brackets. -/
theorem readValue_brackets (lenient : Bool) (count room bound : Nat) (rest : Text)
    (beyond : room < count) (enough : 2 * room < bound) :
    readValue lenient bound room (List.replicate count (.char '[') ++ rest) =
      .error (.tooDeep .list) := by
  induction room generalizing count bound with
  | zero =>
    obtain ⟨bound, rfl⟩ : ∃ less, bound = less + 1 := ⟨bound - 1, by omega⟩
    obtain ⟨count, rfl⟩ : ∃ less, count = less + 1 := ⟨count - 1, by omega⟩
    rfl
  | succ room inductionHypothesis =>
    obtain ⟨bound, rfl⟩ : ∃ less, bound = less + 2 := ⟨bound - 2, by omega⟩
    obtain ⟨count, rfl⟩ : ∃ less, count = less + 2 := ⟨count - 2, by omega⟩
    have inside := inductionHypothesis (count + 1) bound (by omega) (by omega)
    have items : readItems lenient (bound + 1) room
        (List.replicate (count + 1) (.char '[') ++ rest) = .error (.tooDeep .list) := by
      rw [readItems, inside]
      rfl
    rw [List.replicate_succ, List.cons_append, readValue]
    change (readItems lenient (bound + 1) room
      (List.replicate (count + 1) (.char '[') ++ rest)).map _ = _
    rw [items]
    rfl

end AgentRuns.Json
