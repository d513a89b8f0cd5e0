import AgentRuns.Proofs.Json.Nesting
import AgentRuns.Proofs.Json.Strings
import AgentRuns.Proofs.Text.Classes
import AgentRuns.Proofs.Text.Digits

/-!
# Single values written and read

A value is read back from what is written of it if the text behind it does not go
on with a number. What is written begins neither with a blank nor with a closing
bracket, so the reader finds it behind the line break and the blanks that the
writer puts before it, and it consists of printed characters of ASCII and line
feeds, so it survives in a file.

Words, strings and the integers that can be written are read back so.
-/

namespace AgentRuns.Json

/-- The text can follow a value: it is empty, or begins with a line feed or a comma,
    neither of which any number goes on with. -/
def Ends (text : Text) : Prop :=
  text = [] ∨ (∃ rest, text = CodePoint.char '\n' :: rest) ∨
    ∃ rest, text = CodePoint.char ',' :: rest

/-- The text can begin a value: its first character is no blank and closes nothing. -/
def Opens (text : Text) : Prop :=
  ∃ (c : Char) (rest : Text), text = .char c :: rest ∧ c ∉ [' ', '\t', '\n', '\r', ']', '}']

/-- All characters of the text are printed ones of ASCII, or line feeds. -/
def Printed (text : Text) : Prop :=
  ∀ c ∈ text, c = '\n' ∨ 0x20 ≤ c.toNat ∧ c.toNat < 0x7F

instance (text : Text) : Decidable (Printed text) :=
  inferInstanceAs (Decidable (∀ c ∈ text, c = '\n' ∨ 0x20 ≤ c.toNat ∧ c.toNat < 0x7F))

/-- What is written of the value is read as the other one, at every level and before
    every text that can follow a value, wherever there is room for the levels of the value.
    Where there is less room it is not read. The reader's bound grows with the text. The
    other value is written alike, so nothing changes when it is read again. -/
structure ReadsAs (json other : Json) : Prop where
  opens : ∀ level, Opens (writeAt true level json)
  printed : ∀ level, Printed (writeAt true level json)
  alike : ∀ level, writeAt true level other = writeAt true level json
  read : ∀ lenient level bound room rest, 2 * (writeAt true level json).length ≤ bound →
    json.nesting ≤ room → Ends rest →
      readValue lenient bound room (writeAt true level json ++ rest) = .ok (other, rest)
  tooDeep : ∀ lenient level bound room rest, 2 * (writeAt true level json).length ≤ bound →
    room < json.nesting → ∃ bracket,
      readValue lenient bound room (writeAt true level json ++ rest) = .error (.tooDeep bracket)

/-! ## Beginnings -/

/-- A bound that is enough for a value is not zero, since something stands there. -/
theorem Opens.exists_bound {text : Text} (opens : Opens text) {bound : Nat}
    (enough : 2 * text.length ≤ bound) : ∃ less, bound = less + 1 := by
  obtain ⟨c, rest, rfl, _⟩ := opens
  rw [List.length_cons] at enough
  exact ⟨bound - 1, by omega⟩

/-- Where a value begins it begins also with more behind it. -/
theorem Opens.append {text : Text} (opens : Opens text) (rest : Text) : Opens (text ++ rest) := by
  obtain ⟨c, more, rfl, other⟩ := opens
  exact ⟨c, more ++ rest, rfl, other⟩

/-- There are no blanks before a value, so skipping them skips nothing. -/
theorem skipSpace_opens {text : Text} (opens : Opens text) : skipSpace text = text := by
  obtain ⟨c, rest, rfl, other⟩ := opens
  simp only [List.mem_cons, not_or] at other
  simp [skipSpace, other]

/-- A line break and the blanks of a level are skipped, however deep the level is. -/
theorem skipSpace_newLine (level : Nat) (text : Text) :
    skipSpace (newLine level ++ text) = skipSpace text := by
  rw [skipSpace, List.dropWhile_append_of_pos]
  · rfl
  · intro c member
    simp only [newLine, List.mem_cons, List.mem_replicate] at member
    rcases member with rfl | ⟨_, rfl⟩ <;> decide

/-! ## Printed texts -/

/-- Printed texts are printed one behind the other. -/
theorem Printed.append {text more : Text} (first : Printed text) (second : Printed more) :
    Printed (text ++ more) := by
  intro c member
  exact (List.mem_append.mp member).elim (first c) (second c)

/-- A line break and the blanks of a level are printed. -/
theorem printed_newLine (level : Nat) : Printed (newLine level) := by
  intro c member
  simp only [newLine, List.mem_cons, List.mem_replicate] at member
  rcases member with rfl | ⟨_, rfl⟩
  · exact Or.inl rfl
  · exact Or.inr (by decide)

/-- The digits of a count are printed. -/
theorem printed_ofNat (count : Nat) : Printed (Text.ofNat count) := by
  intro c member
  have digit := Text.isPlainDigit_of_mem_ofNat count c member
  rw [Text.isPlainDigit, CodePoint.within, Bool.and_eq_true, decide_eq_true_eq,
    decide_eq_true_eq] at digit
  exact Or.inr ⟨Nat.le_trans (by decide) digit.1, Nat.lt_of_le_of_lt digit.2 (by decide)⟩

/-- The escape of a code unit is printed: a backslash, a letter and four digits. -/
theorem printed_unitEscape (unit : Nat) (small : unit < 0x10000) :
    Printed (unitEscape unit) := by
  have digits : ∀ digit < 16, 0x20 ≤ (Nat.digitChar digit).toNat ∧
      (Nat.digitChar digit).toNat < 0x7F := by decide
  rw [unitEscape, hex_four unit small]
  intro c member
  simp only [List.mem_cons, List.not_mem_nil, or_false] at member
  rcases member with rfl | rfl | rfl | rfl | rfl | rfl
  · exact Or.inr (by decide)
  · exact Or.inr (by decide)
  · exact Or.inr (digits _ (by omega))
  · exact Or.inr (digits _ (by omega))
  · exact Or.inr (digits _ (by omega))
  · exact Or.inr (digits _ (by omega))

/-- Whatever a code point is, what is written of it is printed. Those beyond ASCII are written
    as escapes. -/
theorem printed_escapeChar (c : CodePoint) : Printed (escapeChar true c) := by
  by_cases beyond : 0x7F ≤ c.toNat
  · have bounded := c.toNat_lt
    rw [escapeChar_beyond c beyond]
    split
    · rename_i small
      exact printed_unitEscape _ small
    · exact (printed_unitEscape _ (by omega)).append (printed_unitEscape _ (by omega))
  · unfold escapeChar
    split
    case h_8 =>
      dsimp only
      split
      · exact printed_unitEscape _ (by omega)
      · rw [if_pos (by simp; omega)]
        intro d member
        rw [List.mem_singleton.mp member]
        exact Or.inr ⟨by omega, by omega⟩
    all_goals decide

/-- A string is printed, whatever it says. -/
theorem printed_quote (content : Text) : Printed (quote true content) := by
  have mark : Printed "\"" := by decide
  have inside : Printed (content.flatMap (escapeChar true)) := by
    intro c member
    obtain ⟨d, _, written⟩ := List.mem_flatMap.mp member
    exact printed_escapeChar d c written
  exact (mark.append inside).append mark

/-! ## Strings and words -/

/-- A string is read with its pairs joined. It nests no level, so there is room for it
    everywhere. -/
theorem readsAs_string (content : Text) : ReadsAs (.string content) (.string content.joined) where
  opens level := ⟨'"', _, rfl, by decide⟩
  printed level := by
    rw [writeAt]
    exact printed_quote content
  alike level := by
    rw [writeAt, writeAt, quote_joined]
  read lenient level bound room rest enough _ _ := by
    obtain ⟨bound, rfl⟩ := Opens.exists_bound ⟨'"', _, rfl, by decide⟩ enough
    rw [writeAt, quote, List.append_assoc, List.append_assoc]
    change readValue lenient (bound + 1) room (.char '"' :: (_ ++ .char '"' :: rest)) = _
    rw [readValue, string?_escaped]
    rfl
  tooDeep _ _ _ _ _ _ beyond := absurd beyond (Nat.not_lt_zero _)

/-- The words for values, numbers that are not finite among them. -/
def words : List (Text × Json) :=
  [("null", .null), ("true", .bool true), ("false", .bool false), ("NaN", .float .nan),
    ("Infinity", .float (.infinite false)), ("-Infinity", .float (.infinite true))]

/-- A word is read back. No word is the start of another one, so nothing has to be known of
    what follows. -/
theorem readsAs_word (word : Text) (value : Json) (known : (word, value) ∈ words) :
    ReadsAs value value := by
  obtain ⟨written, opens, printed, read, flat⟩ : (∀ level, writeAt true level value = word) ∧
      Opens word ∧ Printed word ∧
      (∀ lenient bound room rest,
        readValue lenient (bound + 1) room (word ++ rest) = .ok (value, rest)) ∧
      value.nesting = 0 := by
    simp only [words, List.mem_cons, List.not_mem_nil, or_false] at known
    rcases known with same | same | same | same | same | same <;> cases same <;>
      exact ⟨fun level => by rw [writeAt] <;> rfl, ⟨_, _, rfl, by decide⟩, by decide,
        fun lenient bound room rest => rfl, rfl⟩
  refine ⟨fun level => by rwa [written], fun level => by rwa [written], fun level => rfl, ?_, ?_⟩
  · intro lenient level bound room rest enough _ _
    rw [written] at enough ⊢
    obtain ⟨bound, rfl⟩ := opens.exists_bound enough
    exact read lenient bound room rest
  · intro lenient level bound room rest _ beyond
    rw [flat] at beyond
    exact absurd beyond (Nat.not_lt_zero room)

/-! ## Integers -/

/-- Digits are no word, so they are read as a number without a sign. -/
theorem scalar?_digits (c : Char) (rest : Text) (digit : c.isDigit = true) :
    scalar? (.char c :: rest) = unsigned? false (.char c :: rest) := by
  have other (first : Char) (opening : Text) (letter : first.isDigit = false) :
      Text.after? (.char c :: rest) (.char first :: opening) = none := by
    refine Text.after?_of_head _ _ _ _ ?_
    rintro ⟨⟩
    rw [digit] at letter
    cases letter
  have noSign : c ≠ '-' := by
    rintro rfl
    cases digit
  unfold scalar?
  dsimp only
  rw [show Text.after? (.char c :: rest) "null" = none from other 'n' _ rfl,
    show Text.after? (.char c :: rest) "true" = none from other 't' _ rfl,
    show Text.after? (.char c :: rest) "false" = none from other 'f' _ rfl,
    show Text.after? (.char c :: rest) "NaN" = none from other 'N' _ rfl,
    show Text.after? (.char c :: rest) "Infinity" = none from other 'I' _ rfl,
    show Text.after? (.char c :: rest) "-Infinity" = none from other '-' _ rfl]
  simp [noSign]

/-- Digits behind a minus sign are no word either. The one word that begins with a minus goes
    on with a letter. -/
theorem scalar?_minus (c : Char) (rest : Text) (digit : c.isDigit = true) :
    scalar? (.char '-' :: .char c :: rest) = unsigned? true (.char c :: rest) := by
  have noLetter : CodePoint.char 'I' ≠ .char c := by
    rintro ⟨⟩
    cases digit
  have noWord : Text.after? (.char '-' :: .char c :: rest) "-Infinity" = none :=
    Text.after?_of_head (.char c) 'I' rest _ noLetter
  unfold scalar?
  dsimp only
  rw [noWord]
  rfl

/-- The digits of a count are read as the count, if they are not too many. What follows must
    not go on with a number. -/
theorem unsigned?_ofNat (negative : Bool) (count : Nat) (rest : Text) (ends : Ends rest)
    (short : (Text.ofNat count).length ≤ maxDigits) :
    unsigned? negative (Text.ofNat count ++ rest) =
      some (.int (if negative then -(count : Int) else count), rest) := by
  have noFraction : fraction rest = ([], rest) := by
    rcases ends with rfl | ⟨_, rfl⟩ | ⟨_, rfl⟩ <;> rfl
  have noExponent : exponent? rest = none := by
    rcases ends with rfl | ⟨_, rfl⟩ | ⟨_, rfl⟩ <;> rfl
  have noDigit : Line.Outside Text.isPlainDigit rest := by
    rcases ends with rfl | ⟨_, rfl⟩ | ⟨_, rfl⟩ <;> rintro c ⟨⟩ <;> decide
  have whole : digits (Text.ofNat count ++ rest) = (Text.ofNat count, rest) :=
    Line.span_inside _ _ _ (Text.isPlainDigit_of_mem_ofNat count) noDigit
  have read : (if (Text.ofNat count).length ≤ maxDigits then
      some (Json.int (if negative then -(Text.plainValue (Text.ofNat count) : Int)
        else Text.plainValue (Text.ofNat count)), rest)
      else none) = some (.int (if negative then -(count : Int) else count), rest) := by
    rw [if_pos short, Text.plainValue_ofNat]
  obtain ⟨c, others, written, _, zero⟩ := Text.ofNat_opens count
  unfold unsigned?
  dsimp only
  split
  · -- A leading zero stands alone, and it is the whole of zero.
    rename_i behind begins
    have same : c = '0' := by
      rw [written] at begins
      exact CodePoint.char.inj (List.cons.inj begins).1
    obtain rfl := zero same
    obtain rfl : rest = behind := (List.cons.inj (begins : .char '0' :: rest = _ :: behind)).2
    rw [noFraction, noExponent]
    exact read
  · rw [whole, noFraction, noExponent, written]
    rw [written] at read
    exact read

/-- A value that begins with a sign or a digit is a number or a word. Neither room nor bound
    counts for it. -/
theorem readValue_number (lenient : Bool) (bound room : Nat) (c : Char) (rest : Text)
    (number : c = '-' ∨ c.isDigit = true) :
    readValue lenient (bound + 1) room (.char c :: rest) =
      orMalformed (scalar? (.char c :: rest)) := by
  rw [readValue] <;> rintro _ ⟨⟩ <;> revert number <;> decide

/-- An integer begins with a sign or a digit, so a value begins there. -/
theorem opens_int (level : Nat) (number : Int) : Opens (writeAt true level (.int number)) := by
  obtain ⟨c, rest, written, digit, _⟩ := Text.ofNat_opens number.natAbs
  rw [writeAt, Text.ofInt_eq, written]
  split
  · exact ⟨'-', _, rfl, by decide⟩
  · refine ⟨c, rest, rfl, fun closing => ?_⟩
    simp only [List.mem_cons, List.not_mem_nil, or_false] at closing
    rcases closing with rfl | rfl | rfl | rfl | rfl | rfl <;> cases digit

/-- An integer that can be written is read back. The digits that writing counts are those that
    reading counts. -/
theorem readsAs_int (number : Int) (short : (Text.ofInt? number).isSome = true) :
    ReadsAs (.int number) (.int number) where
  opens level := opens_int level number
  printed level := by
    have sign : Printed "-" := by decide
    rw [writeAt, Text.ofInt_eq]
    split
    · exact sign.append (printed_ofNat _)
    · exact printed_ofNat _
  alike level := rfl
  read lenient level bound room rest enough _ ends := by
    obtain ⟨bound, rfl⟩ := (opens_int level number).exists_bound enough
    obtain ⟨c, others, written, digit, _⟩ := Text.ofNat_opens number.natAbs
    have unsigned := fun negative =>
      unsigned?_ofNat negative number.natAbs rest ends (Text.length_of_ofInt? number short)
    rw [written] at unsigned
    rw [writeAt, Text.ofInt_eq, written]
    split
    · have value : -(number.natAbs : Int) = number := by omega
      rw [List.cons_append, readValue_number _ _ _ _ _ (Or.inl rfl), List.cons_append,
        scalar?_minus c _ digit, ← List.cons_append, unsigned, if_pos rfl, value]
      rfl
    · have value : (number.natAbs : Int) = number := by omega
      rw [List.cons_append, readValue_number _ _ _ _ _ (Or.inr digit), scalar?_digits c _ digit,
        ← List.cons_append, unsigned, if_neg Bool.false_ne_true, value]
      rfl
  tooDeep _ _ _ _ _ _ beyond := absurd beyond (Nat.not_lt_zero _)

end AgentRuns.Json
