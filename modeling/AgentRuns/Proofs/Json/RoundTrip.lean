import AgentRuns.Proofs.Json.Scalars
import AgentRuns.Proofs.Table
import AgentRuns.Proofs.Text.Octets

/-!
# Values written and read

Lists are read item by item and objects field by field, each of them from what the
writer puts between its brackets, so whatever is made of values that are read back
is read back. An object is read as the table of its fields: of equal keys the last
one counts. The whole text is one value, and so is a file of it.

A reader with less room than the value has levels does not read it. It reads what stands
before the first item or field that nests too deeply, and fails there.
-/

namespace AgentRuns.Json

/-! ## Rules of the grammar -/

section Grammar

variable {lenient : Bool} {bound room : Nat} {text rest behind after : Text}

/-- A list that ends behind its item has this item alone, and what is left is what stands
    behind the bracket. -/
theorem readItems_last {item : Json} (read : readValue lenient bound room text = .ok (item, rest))
    (closed : skipSpace rest = .char ']' :: after) :
    readItems lenient (bound + 1) room text = .ok ([item], after) := by
  rw [readItems, read]
  simp only [bind, Except.bind, closed]
  rfl

/-- A list that goes on behind its item comes to what its further items come to. A refusal of
    these is the refusal of the whole. -/
theorem readItems_more {item : Json} (read : readValue lenient bound room text = .ok (item, rest))
    (comma : skipSpace rest = .char ',' :: behind) :
    readItems lenient (bound + 1) room text =
      (readItems lenient bound room (skipSpace behind)).map fun (items, after) =>
        (item :: items, after) := by
  rw [readItems, read]
  simp only [bind, Except.bind, comma]
  cases readItems lenient bound room (skipSpace behind) <;> rfl

/-- An object that ends behind its field has this field alone. The key is a string, and blanks
    may stand on both sides of the colon. -/
theorem readFields_last {key : Text} {value : Json} {colon content : Text}
    (keyRead : string? lenient text = some (key, colon))
    (separated : skipSpace colon = .char ':' :: content)
    (read : readValue lenient bound room (skipSpace content) = .ok (value, rest))
    (closed : skipSpace rest = .char '}' :: after) :
    readFields lenient (bound + 1) room (.char '"' :: text) = .ok ([(key, value)], after) := by
  rw [readFields, keyRead]
  simp only [orMalformed, bind, Except.bind, separated, read, closed]
  rfl

/-- An object that goes on behind its field comes to what its further fields come to. A
    refusal of these is the refusal of the whole. -/
theorem readFields_more {key : Text} {value : Json} {colon content : Text}
    (keyRead : string? lenient text = some (key, colon))
    (separated : skipSpace colon = .char ':' :: content)
    (read : readValue lenient bound room (skipSpace content) = .ok (value, rest))
    (comma : skipSpace rest = .char ',' :: behind) :
    readFields lenient (bound + 1) room (.char '"' :: text) =
      (readFields lenient bound room (skipSpace behind)).map fun (fields, after) =>
        ((key, value) :: fields, after) := by
  rw [readFields, keyRead]
  simp only [orMalformed, bind, Except.bind, separated, read, comma]
  cases readFields lenient bound room (skipSpace behind) <;> rfl

/-- An object whose first value is not read is not read either, for the same reason. What
    follows the value is never looked at. -/
theorem readFields_error {key : Text} {colon content : Text} {refusal : Refusal}
    (keyRead : string? lenient text = some (key, colon))
    (separated : skipSpace colon = .char ':' :: content)
    (fails : readValue lenient bound room (skipSpace content) = .error refusal) :
    readFields lenient (bound + 1) room (.char '"' :: text) = .error refusal := by
  rw [readFields, keyRead]
  simp only [orMalformed, bind, Except.bind, separated, fails]

/-- A list with items takes up a level and comes to what its items come to. The level is gone
    behind the bracket, for the items, and it is back behind the list. -/
theorem readValue_list (begins : skipSpace text = behind) (opens : Opens behind) :
    readValue lenient (bound + 1) (room + 1) (.char '[' :: text) =
      (readItems lenient bound room behind).map fun (items, after) => (.list items, after) := by
  obtain ⟨c, rest, rfl, other⟩ := opens
  have noBracket : c ≠ ']' := by
    rintro rfl
    exact other (by decide)
  rw [readValue]
  simp only [enter, bind, Except.bind, begins]
  split
  · rename_i same
    exact absurd (CodePoint.char.inj (List.cons.inj same).1) noBracket
  · rfl

/-- An object with fields, the first of which begins with a quote, takes up a level and
    comes to what its fields come to. -/
theorem readValue_object (begins : skipSpace text = .char '"' :: behind) :
    readValue lenient (bound + 1) (room + 1) (.char '{' :: text) =
      (readFields lenient bound room (.char '"' :: behind)).map fun (fields, after) =>
        (.object (Table.ofEntries fields), after) := by
  rw [readValue]
  simp only [enter, bind, Except.bind, begins]
  rfl

end Grammar

/-! ## Lists -/

/-- No number goes on in a line break, so one may stand behind any value. -/
theorem ends_newLine (level : Nat) (rest : Text) : Ends (newLine level ++ rest) :=
  Or.inr (Or.inl ⟨_, rfl⟩)

/-- What is written of further items begins with a comma, or with what stands behind them.
    Either way no number goes on there. -/
theorem ends_writeItems (level : Nat) (items : List Json) {tail : Text} (ends : Ends tail) :
    Ends (writeItems true level items ++ tail) := by
  cases items with
  | nil => exact ends
  | cons item items => exact Or.inr (Or.inr ⟨_, rfl⟩)

/-- What is written of further items grows with each of them. This is what keeps the bound
    large enough from item to item. -/
theorem length_writeItems (level : Nat) (next : Json) (items : List Json) :
    (writeAt true level next).length + (writeItems true level items).length <
      (writeItems true level (next :: items)).length := by
  have comma : (Text.ofString ",").length = 1 := rfl
  simp only [writeItems, List.length_append, comma]
  omega

section Items

variable (lenient : Bool) (level room : Nat)

/-- Behind an item and the comma and the line break of the next one the reader comes to
    the next one. -/
theorem readItems_next {next after : Json} (second : ReadsAs next after) (items : List Json)
    (tail : Text) :
    ∃ behind, skipSpace (writeItems true level (next :: items) ++ tail) = .char ',' :: behind ∧
      skipSpace behind = writeAt true level next ++ (writeItems true level items ++ tail) := by
  refine ⟨newLine level ++ (writeAt true level next ++ (writeItems true level items ++ tail)),
    ?_, ?_⟩
  · simp only [writeItems, List.append_assoc]
    rfl
  · rw [skipSpace_newLine, skipSpace_opens ((second.opens level).append _)]

/-- The items of a list are read one by one, where there is room for each of them. The bound
    is enough for all that is written of them, and each item takes its part of it. -/
theorem readItems_written {item other : Json} (first : ReadsAs item other)
    {items others : List Json} (all : List.Forall₂ ReadsAs items others) {tail rest : Text}
    (ends : Ends tail) (closed : skipSpace tail = .char ']' :: rest) (bound : Nat)
    (enough : 2 * ((writeAt true level item).length + (writeItems true level items).length) <
      bound)
    (fits : ∀ inner ∈ item :: items, inner.nesting ≤ room) :
    readItems lenient bound room
      (writeAt true level item ++ (writeItems true level items ++ tail)) =
      .ok (other :: others, rest) := by
  obtain ⟨here, later⟩ := List.forall_mem_cons.mp fits
  induction all generalizing item other bound with
  | nil =>
    obtain ⟨bound, rfl⟩ : ∃ less, bound = less + 1 := ⟨bound - 1, by omega⟩
    exact readItems_last (first.read _ _ _ _ _ (by omega) here ends) closed
  | @cons next after items others second _ inductionHypothesis =>
    have longer := length_writeItems level next items
    obtain ⟨bound, rfl⟩ : ∃ less, bound = less + 1 := ⟨bound - 1, by omega⟩
    have read := first.read lenient level bound room (writeItems true level (next :: items) ++ tail)
      (by omega) here (ends_writeItems level (next :: items) ends)
    obtain ⟨behind, comma, more⟩ := readItems_next level second items tail
    obtain ⟨nextHere, nextLater⟩ := List.forall_mem_cons.mp later
    rw [readItems_more read comma, more,
      inductionHypothesis second bound (by omega) later nextHere nextLater]
    rfl

/-- Items of which one nests too deeply are not read. Those before it are read, and the
    refusal names a bracket in it. -/
theorem readItems_tooDeep {item other : Json} (first : ReadsAs item other)
    {items others : List Json} (all : List.Forall₂ ReadsAs items others) {tail : Text}
    (ends : Ends tail) (bound : Nat)
    (enough : 2 * ((writeAt true level item).length + (writeItems true level items).length) <
      bound)
    (beyond : ¬∀ inner ∈ item :: items, inner.nesting ≤ room) :
    ∃ bracket, readItems lenient bound room
      (writeAt true level item ++ (writeItems true level items ++ tail)) =
        .error (.tooDeep bracket) := by
  induction all generalizing item other bound with
  | nil =>
    obtain ⟨bound, rfl⟩ : ∃ less, bound = less + 1 := ⟨bound - 1, by omega⟩
    have deep : room < item.nesting := by simpa using beyond
    obtain ⟨bracket, fails⟩ := first.tooDeep lenient level bound room
      (writeItems true level [] ++ tail) (by omega) deep
    exact ⟨bracket, by rw [readItems, fails]; rfl⟩
  | @cons next after items others second _ inductionHypothesis =>
    have longer := length_writeItems level next items
    obtain ⟨bound, rfl⟩ : ∃ less, bound = less + 1 := ⟨bound - 1, by omega⟩
    by_cases here : item.nesting ≤ room
    · have read := first.read lenient level bound room
        (writeItems true level (next :: items) ++ tail) (by omega) here
        (ends_writeItems level (next :: items) ends)
      obtain ⟨behind, comma, more⟩ := readItems_next level second items tail
      obtain ⟨bracket, fails⟩ := inductionHypothesis second bound (by omega)
        fun later => beyond (List.forall_mem_cons.mpr ⟨here, later⟩)
      exact ⟨bracket, by rw [readItems_more read comma, more, fails]; rfl⟩
    · obtain ⟨bracket, fails⟩ := first.tooDeep lenient level bound room
        (writeItems true level (next :: items) ++ tail) (by omega) (Nat.not_le.mp here)
      exact ⟨bracket, by rw [readItems, fails]; rfl⟩

end Items

/-- What is written of further items is printed: commas, line breaks, and what is written of
    the items. -/
theorem printed_writeItems (level : Nat) {items others : List Json}
    (all : List.Forall₂ ReadsAs items others) : Printed (writeItems true level items) := by
  induction all with
  | nil => exact fun c member => nomatch member
  | cons first _ inductionHypothesis =>
    have comma : Printed "," := by decide
    rw [writeItems]
    exact ((comma.append (printed_newLine level)).append (first.printed level)).append
      inductionHypothesis

/-- Items that are read back otherwise than they were are written as they were. They differ by
    pairs that were joined, and both forms have the same escapes. -/
theorem writeItems_alike (level : Nat) {items others : List Json}
    (all : List.Forall₂ ReadsAs items others) :
    writeItems true level others = writeItems true level items := by
  induction all with
  | nil => rfl
  | cons first _ inductionHypothesis =>
    rw [writeItems, writeItems, first.alike, inductionHypothesis]

/-- A list is read item by item. It is read back wherever there is room for it, and refused
    for its depth wherever there is not. -/
theorem readsAs_list {items others : List Json} (all : List.Forall₂ ReadsAs items others) :
    ReadsAs (.list items) (.list others) := by
  cases all with
  | nil =>
    have opens : ∀ level, Opens (writeAt true level (.list [])) :=
      fun level => ⟨'[', _, rfl, by decide⟩
    refine ⟨opens, fun level => ?_, fun level => rfl, ?_, ?_⟩
    · rw [writeAt]
      decide
    · intro lenient level bound room rest enough fits _
      obtain ⟨bound, rfl⟩ := (opens level).exists_bound enough
      obtain ⟨room, rfl, _⟩ := (nesting_list_le [] room).mp fits
      rfl
    · intro lenient level bound room rest enough beyond
      obtain ⟨bound, rfl⟩ := (opens level).exists_bound enough
      obtain rfl : room = 0 := Nat.lt_one_iff.mp beyond
      exact ⟨.list, rfl⟩
  | @cons item other items others first all =>
    have opens (level : Nat) : Opens (writeAt true level (.list (item :: items))) :=
      ⟨'[', _, rfl, by decide⟩
    have begins (level : Nat) (text : Text) : skipSpace (newLine (level + 1) ++
        (writeAt true (level + 1) item ++ text)) = writeAt true (level + 1) item ++ text := by
      rw [skipSpace_newLine, skipSpace_opens ((first.opens _).append _)]
    have shorter (level bound : Nat)
        (enough : 2 * (writeAt true level (.list (item :: items))).length ≤ bound + 1) :
        2 * ((writeAt true (level + 1) item).length +
          (writeItems true (level + 1) items).length) < bound := by
      rw [writeAt] at enough
      simp only [List.length_append, newLine, List.length_cons] at enough
      omega
    refine ⟨opens, fun level => ?_, fun level => ?_, ?_, ?_⟩
    · have bracket : Printed "[" := by decide
      have closing : Printed "]" := by decide
      rw [writeAt]
      exact ((((bracket.append (printed_newLine _)).append (first.printed _)).append
        (printed_writeItems _ all)).append (printed_newLine _)).append closing
    · rw [writeAt, writeAt, first.alike, writeItems_alike _ all]
    · intro lenient level bound room rest enough fits _
      obtain ⟨bound, rfl⟩ := (opens level).exists_bound enough
      obtain ⟨room, rfl, within⟩ := (nesting_list_le _ room).mp fits
      have inside := readItems_written lenient (level + 1) room first all (ends_newLine level _)
        (skipSpace_newLine level (CodePoint.char ']' :: rest)) bound
        (shorter level bound enough) within
      rw [writeAt]
      simp only [List.append_assoc]
      refine (readValue_list (begins level _) ((first.opens _).append _)).trans ?_
      rw [show newLine level ++ (Text.ofString "]" ++ rest) =
        newLine level ++ CodePoint.char ']' :: rest from rfl, inside]
      rfl
    · intro lenient level bound room rest enough beyond
      obtain ⟨bound, rfl⟩ := (opens level).exists_bound enough
      rw [writeAt]
      simp only [List.append_assoc]
      cases room with
      | zero => exact ⟨.list, rfl⟩
      | succ room =>
        obtain ⟨bracket, fails⟩ := readItems_tooDeep lenient (level + 1) room first all
          (ends_newLine level (CodePoint.char ']' :: rest)) bound (shorter level bound enough)
          fun within => Nat.not_le.mpr beyond ((nesting_list_le _ _).mpr ⟨room, rfl, within⟩)
        refine ⟨bracket, (readValue_list (begins level _) ((first.opens _).append _)).trans ?_⟩
        rw [show newLine level ++ (Text.ofString "]" ++ rest) =
          newLine level ++ CodePoint.char ']' :: rest from rfl, fails]
        rfl

/-! ## Objects -/

/-- What is written of a field is read as the other one. -/
def FieldReadsAs (field other : Text × Json) : Prop :=
  other.1 = field.1.joined ∧ ReadsAs field.2 other.2

/-- What is written of further fields begins with a comma, or with what stands behind them. -/
theorem ends_writeFields (level : Nat) (fields : List (Text × Json)) {tail : Text}
    (ends : Ends tail) : Ends (writeFields true level fields ++ tail) := by
  cases fields with
  | nil => exact ends
  | cons field fields => exact Or.inr (Or.inr ⟨_, rfl⟩)

/-- A key is read up to the blank before its value, with its pairs joined. -/
theorem string?_key (lenient : Bool) (key text : Text) :
    string? lenient (key.flatMap (escapeChar true) ++
      (Text.ofString "\"" ++ (Text.ofString ": " ++ text))) =
      some (key.joined, Text.ofString ": " ++ text) :=
  string?_escaped lenient key _

/-- What is written of further fields grows with each of them. The keys and their colons come
    on top of the values. -/
theorem length_writeFields (level : Nat) (next : Text × Json) (fields : List (Text × Json)) :
    (writeAt true level next.2).length + (writeFields true level fields).length <
      (writeFields true level (next :: fields)).length := by
  have comma : (Text.ofString ",").length = 1 := rfl
  simp only [writeFields, List.length_append, comma]
  omega

section Fields

variable (lenient : Bool) (level room : Nat)

/-- Behind a field and the comma and the line break of the next one the reader comes to
    the next one. -/
theorem readFields_next (next : Text × Json) (fields : List (Text × Json)) (tail : Text) :
    ∃ behind, skipSpace (writeFields true level (next :: fields) ++ tail) = .char ',' :: behind ∧
      skipSpace behind = quote true next.1 ++ (Text.ofString ": " ++
        (writeAt true level next.2 ++ (writeFields true level fields ++ tail))) := by
  refine ⟨newLine level ++ (quote true next.1 ++ (Text.ofString ": " ++
    (writeAt true level next.2 ++ (writeFields true level fields ++ tail)))), ?_, ?_⟩
  · simp only [writeFields, List.append_assoc]
    rfl
  · exact skipSpace_newLine _ _

/-- The fields of an object are read one by one, where there is room for each value. The bound
    is enough for all that is written of them. -/
theorem readFields_written {field other : Text × Json} (first : FieldReadsAs field other)
    {fields others : List (Text × Json)} (all : List.Forall₂ FieldReadsAs fields others)
    {tail rest : Text} (ends : Ends tail) (closed : skipSpace tail = .char '}' :: rest)
    (bound : Nat)
    (enough : 2 * ((writeAt true level field.2).length +
      (writeFields true level fields).length) < bound)
    (fits : ∀ inner ∈ field :: fields, inner.2.nesting ≤ room) :
    readFields lenient bound room (quote true field.1 ++ (Text.ofString ": " ++
      (writeAt true level field.2 ++ (writeFields true level fields ++ tail)))) =
      .ok (other :: others, rest) := by
  obtain ⟨here, later⟩ := List.forall_mem_cons.mp fits
  induction all generalizing field other bound with
  | nil =>
    obtain ⟨bound, rfl⟩ : ∃ less, bound = less + 1 := ⟨bound - 1, by omega⟩
    obtain ⟨key, value⟩ := other
    obtain ⟨rfl, valueRead⟩ := first
    have read := valueRead.read lenient level bound room tail (by omega) here ends
    rw [← skipSpace_opens ((valueRead.opens level).append tail)] at read
    rw [quote, List.append_assoc, List.append_assoc]
    exact readFields_last (string?_key lenient field.1 _) rfl read closed
  | @cons next _ fields _ second _ inductionHypothesis =>
    have longer := length_writeFields level next fields
    obtain ⟨bound, rfl⟩ : ∃ less, bound = less + 1 := ⟨bound - 1, by omega⟩
    obtain ⟨key, value⟩ := other
    obtain ⟨rfl, valueRead⟩ := first
    have read := valueRead.read lenient level bound room
      (writeFields true level (next :: fields) ++ tail) (by omega) here
      (ends_writeFields level (next :: fields) ends)
    rw [← skipSpace_opens ((valueRead.opens level).append _)] at read
    obtain ⟨behind, comma, more⟩ := readFields_next level next fields tail
    obtain ⟨nextHere, nextLater⟩ := List.forall_mem_cons.mp later
    rw [quote, List.append_assoc, List.append_assoc]
    refine (readFields_more (string?_key lenient field.1 _) rfl read comma).trans ?_
    rw [more, inductionHypothesis second bound (by omega) later nextHere nextLater]
    rfl

/-- Fields of which one nests too deeply are not read. Those before it are read, and the
    refusal names a bracket in its value. -/
theorem readFields_tooDeep {field other : Text × Json} (first : FieldReadsAs field other)
    {fields others : List (Text × Json)} (all : List.Forall₂ FieldReadsAs fields others)
    {tail : Text} (ends : Ends tail) (bound : Nat)
    (enough : 2 * ((writeAt true level field.2).length +
      (writeFields true level fields).length) < bound)
    (beyond : ¬∀ inner ∈ field :: fields, inner.2.nesting ≤ room) :
    ∃ bracket, readFields lenient bound room (quote true field.1 ++ (Text.ofString ": " ++
      (writeAt true level field.2 ++ (writeFields true level fields ++ tail)))) =
        .error (.tooDeep bracket) := by
  induction all generalizing field other bound with
  | nil =>
    obtain ⟨bound, rfl⟩ : ∃ less, bound = less + 1 := ⟨bound - 1, by omega⟩
    have deep : room < field.2.nesting := by simpa using beyond
    obtain ⟨bracket, fails⟩ := first.2.tooDeep lenient level bound room
      (writeFields true level [] ++ tail) (by omega) deep
    rw [← skipSpace_opens ((first.2.opens level).append _)] at fails
    rw [quote, List.append_assoc, List.append_assoc]
    exact ⟨bracket, readFields_error (string?_key lenient field.1 _) rfl fails⟩
  | @cons next _ fields _ second _ inductionHypothesis =>
    have longer := length_writeFields level next fields
    obtain ⟨bound, rfl⟩ : ∃ less, bound = less + 1 := ⟨bound - 1, by omega⟩
    rw [quote, List.append_assoc, List.append_assoc]
    by_cases here : field.2.nesting ≤ room
    · have read := first.2.read lenient level bound room
        (writeFields true level (next :: fields) ++ tail) (by omega) here
        (ends_writeFields level (next :: fields) ends)
      rw [← skipSpace_opens ((first.2.opens level).append _)] at read
      obtain ⟨behind, comma, more⟩ := readFields_next level next fields tail
      obtain ⟨bracket, fails⟩ := inductionHypothesis second bound (by omega)
        fun later => beyond (List.forall_mem_cons.mpr ⟨here, later⟩)
      refine ⟨bracket, (readFields_more (string?_key lenient field.1 _) rfl read comma).trans ?_⟩
      rw [more, fails]
      rfl
    · obtain ⟨bracket, fails⟩ := first.2.tooDeep lenient level bound room
        (writeFields true level (next :: fields) ++ tail) (by omega) (Nat.not_le.mp here)
      rw [← skipSpace_opens ((first.2.opens level).append _)] at fails
      exact ⟨bracket, readFields_error (string?_key lenient field.1 _) rfl fails⟩

end Fields

/-- What is written of further fields is printed: commas, line breaks, keys as strings, and
    what is written of the values. -/
theorem printed_writeFields (level : Nat) {fields others : List (Text × Json)}
    (all : List.Forall₂ FieldReadsAs fields others) : Printed (writeFields true level fields) := by
  induction all with
  | nil => exact fun c member => nomatch member
  | cons first _ inductionHypothesis =>
    have comma : Printed "," := by decide
    have colon : Printed ": " := by decide
    rw [writeFields]
    exact ((((comma.append (printed_newLine level)).append (printed_quote _)).append colon).append
      (first.2.printed level)).append inductionHypothesis

/-- Fields that are read back otherwise than they were are written as they were, keys and
    values alike. -/
theorem writeFields_alike (level : Nat) {fields others : List (Text × Json)}
    (all : List.Forall₂ FieldReadsAs fields others) :
    writeFields true level others = writeFields true level fields := by
  induction all with
  | nil => rfl
  | cons first _ inductionHypothesis =>
    rw [writeFields, writeFields, first.1, quote_joined, first.2.alike, inductionHypothesis]

/-- An object is read field by field. No key hides another one, because the keys are distinct
    as they are read, with their pairs joined. -/
theorem readsAs_object {fields others : List (Text × Json)}
    (all : List.Forall₂ FieldReadsAs fields others)
    (distinct : (others.map Prod.fst).Nodup) :
    ReadsAs (.object fields) (.object others) := by
  cases all with
  | nil =>
    have opens : ∀ level, Opens (writeAt true level (.object [])) :=
      fun level => ⟨'{', _, rfl, by decide⟩
    refine ⟨opens, fun level => ?_, fun level => rfl, ?_, ?_⟩
    · rw [writeAt]
      decide
    · intro lenient level bound room rest enough fits _
      obtain ⟨bound, rfl⟩ := (opens level).exists_bound enough
      obtain ⟨room, rfl, _⟩ := (nesting_object_le [] room).mp fits
      rfl
    · intro lenient level bound room rest enough beyond
      obtain ⟨bound, rfl⟩ := (opens level).exists_bound enough
      obtain rfl : room = 0 := Nat.lt_one_iff.mp beyond
      exact ⟨.object, rfl⟩
  | @cons field other fields others first all =>
    have opens (level : Nat) : Opens (writeAt true level (.object (field :: fields))) :=
      ⟨'{', _, rfl, by decide⟩
    have begins (level : Nat) (text : Text) : skipSpace (newLine (level + 1) ++
        (quote true field.1 ++ text)) = quote true field.1 ++ text := skipSpace_newLine _ _
    have shorter (level bound : Nat)
        (enough : 2 * (writeAt true level (.object (field :: fields))).length ≤ bound + 1) :
        2 * ((writeAt true (level + 1) field.2).length +
          (writeFields true (level + 1) fields).length) < bound := by
      rw [writeAt] at enough
      simp only [List.length_append, newLine, List.length_cons] at enough
      omega
    refine ⟨opens, fun level => ?_, fun level => ?_, ?_, ?_⟩
    · have brace : Printed "\x7b" := by decide
      have closing : Printed "\x7d" := by decide
      have colon : Printed ": " := by decide
      rw [writeAt]
      exact ((((((brace.append (printed_newLine _)).append (printed_quote _)).append colon).append
        (first.2.printed _)).append (printed_writeFields _ all)).append (printed_newLine _)).append
          closing
    · rw [writeAt, writeAt, first.1, quote_joined, first.2.alike, writeFields_alike _ all]
    · intro lenient level bound room rest enough fits _
      obtain ⟨bound, rfl⟩ := (opens level).exists_bound enough
      obtain ⟨room, rfl, within⟩ := (nesting_object_le _ room).mp fits
      have inside := readFields_written lenient (level + 1) room first all (ends_newLine level _)
        (skipSpace_newLine level (CodePoint.char '}' :: rest)) bound
        (shorter level bound enough) within
      rw [writeAt, ← Table.ofEntries_of_nodup _ distinct]
      simp only [List.append_assoc]
      refine (readValue_object (begins level _)).trans ?_
      change (readFields lenient bound room (quote true field.1 ++ _)).map _ = _
      rw [show newLine level ++ (Text.ofString "\x7d" ++ rest) =
        newLine level ++ CodePoint.char '}' :: rest from rfl, inside]
      rfl
    · intro lenient level bound room rest enough beyond
      obtain ⟨bound, rfl⟩ := (opens level).exists_bound enough
      rw [writeAt]
      simp only [List.append_assoc]
      cases room with
      | zero => exact ⟨.object, rfl⟩
      | succ room =>
        obtain ⟨bracket, fails⟩ := readFields_tooDeep lenient (level + 1) room first all
          (ends_newLine level (CodePoint.char '}' :: rest)) bound (shorter level bound enough)
          fun within => Nat.not_le.mpr beyond ((nesting_object_le _ _).mpr ⟨room, rfl, within⟩)
        refine ⟨bracket, (readValue_object (begins level _)).trans ?_⟩
        change (readFields lenient bound room (quote true field.1 ++ _)).map _ = _
        rw [show newLine level ++ (Text.ofString "\x7d" ++ rest) =
          newLine level ++ CodePoint.char '}' :: rest from rfl, fails]
        rfl

/-! ## All values that are read back -/

mutual

/-- The value with the pairs joined in all its texts. -/
def joined : Json → Json
  | .string value => .string value.joined
  | .list items => .list (joinedItems items)
  | .object fields => .object (joinedFields fields)
  | .null => .null
  | .bool value => .bool value
  | .int value => .int value
  | .float value => .float value

/-- The items with the pairs joined. -/
def joinedItems : List Json → List Json
  | [] => []
  | item :: items => joined item :: joinedItems items

/-- The fields with the pairs joined, those of the keys too. -/
def joinedFields : List (Text × Json) → List (Text × Json)
  | [] => []
  | (key, value) :: fields => (key.joined, joined value) :: joinedFields fields

end

/-- The items of a list are joined one by one. -/
theorem joinedItems_eq (items : List Json) : joinedItems items = items.map joined := by
  induction items with
  | nil => rfl
  | cons item items inductionHypothesis => rw [joinedItems, inductionHypothesis, List.map_cons]

/-- The fields of an object are joined one by one, each in its key and in its value. -/
theorem joinedFields_eq (fields : List (Text × Json)) :
    joinedFields fields = fields.map fun field => (field.1.joined, field.2.joined) := by
  induction fields with
  | nil => rfl
  | cons field fields inductionHypothesis =>
    rw [joinedFields, inductionHypothesis, List.map_cons]

/-- The value is made of words, texts and integers that can be written, and no object
    in it has a key twice. -/
inductive Storable : Json → Prop
  | word (word : Text) (value : Json) (known : (word, value) ∈ words) : Storable value
  | string (content : Text) : Storable (.string content)
  | int (number : Int) (short : (Text.ofInt? number).isSome = true) : Storable (.int number)
  | list (items : List Json) (all : ∀ item ∈ items, Storable item) : Storable (.list items)
  | object (fields : List (Text × Json)) (all : ∀ field ∈ fields, Storable field.2)
    (distinct : (fields.map fun field => field.1.joined).Nodup) : Storable (.object fields)

/-- Such a value is read back with the pairs of its texts joined. The induction is on the
    value, with one law for each way to make one. -/
theorem Storable.readsAs {json : Json} (storable : Storable json) :
    ReadsAs json json.joined := by
  induction storable with
  | word word value known =>
    have same : value.joined = value := by
      simp only [words, List.mem_cons, List.not_mem_nil, or_false] at known
      rcases known with same | same | same | same | same | same <;> cases same <;> rfl
    rw [same]
    exact readsAs_word word value known
  | string content => exact readsAs_string content
  | int number short => exact readsAs_int number short
  | list items _ inductionHypothesis =>
    rw [joined, joinedItems_eq]
    exact readsAs_list (List.forall₂_map_right_iff.mpr (List.forall₂_same.mpr inductionHypothesis))
  | object fields _ distinct inductionHypothesis =>
    rw [joined, joinedFields_eq]
    refine readsAs_object (List.forall₂_map_right_iff.mpr (List.forall₂_same.mpr ?_)) ?_
    · exact fun field member => ⟨rfl, inductionHypothesis field member⟩
    · rwa [List.map_map]

/-! ## Whole texts -/

/-- The whole of what is written is read where there is room for it. The bound that a whole
    text is read with is enough for it, and nothing is left behind the value. -/
theorem ReadsAs.read_eq {json other : Json} (reads : ReadsAs json other) (lenient : Bool)
    (room : Nat) (fits : json.nesting ≤ room) :
    Json.read lenient room (writeAscii json) = .ok other := by
  have read := reads.read lenient 0 (2 * (writeAscii json).length + 2) room []
    (Nat.le_add_right _ 2) fits (Or.inl rfl)
  rw [List.append_nil] at read
  rw [Json.read, writeAscii, skipSpace_opens (reads.opens 0)]
  rw [writeAscii] at read
  rw [read]
  rfl

/-- What is written is read exactly where there is room for as many levels as the value
    nests. Elsewhere the room is to blame. -/
theorem ReadsAs.tooDeep_iff {json other : Json} (reads : ReadsAs json other) (lenient : Bool)
    (room : Nat) :
    (∃ bracket, Json.read lenient room (writeAscii json) = .error (.tooDeep bracket)) ↔
      room < json.nesting := by
  constructor
  · rintro ⟨bracket, fails⟩
    by_contra fits
    rw [reads.read_eq lenient room (Nat.not_lt.mp fits)] at fails
    cases fails
  · intro beyond
    obtain ⟨bracket, fails⟩ := reads.tooDeep lenient 0 (2 * (writeAscii json).length + 2) room []
      (Nat.le_add_right _ 2) beyond
    rw [List.append_nil] at fails
    refine ⟨bracket, ?_⟩
    rw [Json.read, writeAscii, skipSpace_opens (reads.opens 0)]
    rw [writeAscii] at fails
    rw [fails]
    rfl

/-- A file of what is written has it as its text. All of it is ASCII, so it decodes to itself,
    and its only line breaks are line feeds. -/
theorem ReadsAs.text? {json other : Json} (reads : ReadsAs json other) :
    Bytes.text? (Utf8.encode (writeAscii json)) = some (writeAscii json) := by
  refine Bytes.text?_encode _ (fun c member => ?_) fun returned => ?_
  · rcases reads.printed 0 c member with rfl | ⟨_, ascii⟩
    · rfl
    · exact c.isHalf_of_ascii (Nat.lt_trans ascii (by decide))
  · exact absurd (reads.printed 0 _ returned) (by decide)

end AgentRuns.Json
