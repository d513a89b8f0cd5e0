import AgentRuns.Proofs.Block.Growth
import AgentRuns.Proofs.Block.Quotes
import AgentRuns.Proofs.Transcript.Noise

/-!
# Escaped payloads

A writer escapes five characters of a payload by a backslash: the backslash, the
quote, and the line feed, tab and carriage return under letters of their own.
Three mechanisms meet the escaped text, and each of them agrees with the writer
for a reason of its own. The count of braces sees no bare quote, for every quote
stands behind a backslash that is not escaped. The search for the payload's end
sees none behind a brace, for what stands right before a quote is a backslash.
And undoing the escapes reads them in the pairs in which they were written.
-/

namespace AgentRuns.Block

/-- A character of a payload as a block writes it. -/
def written : CodePoint → Text
  | .char '\\' => ['\\', '\\']
  | .char '"' => ['\\', '"']
  | .char '\n' => ['\\', 'n']
  | .char '\t' => ['\\', 't']
  | .char '\r' => ['\\', 'r']
  | c => [c]

/-- A payload as a block writes it. -/
def escape (payload : Text) : Text := payload.flatMap written

/-- A character is written as it is, or as an escape that stands for it. A quote and a
    backslash are never written as they are, and no escape is marked with a brace. -/
theorem written_cases (c : CodePoint) :
    (written c = [c] ∧ c ≠ .char '"' ∧ c ≠ .char '\\') ∨
    ∃ mark, written c = [.char '\\', mark] ∧ unescaped mark = [c] ∧ mark ≠ .char '}' := by
  by_cases backslash : c = .char '\\'
  · exact Or.inr ⟨.char '\\', by rw [backslash]; rfl, by rw [backslash]; rfl, by decide⟩
  by_cases quote : c = .char '"'
  · exact Or.inr ⟨.char '"', by rw [quote]; rfl, by rw [quote]; rfl, by decide⟩
  by_cases feed : c = .char '\n'
  · exact Or.inr ⟨.char 'n', by rw [feed]; rfl, by rw [feed]; rfl, by decide⟩
  by_cases tab : c = .char '\t'
  · exact Or.inr ⟨.char 't', by rw [tab]; rfl, by rw [tab]; rfl, by decide⟩
  by_cases carriage : c = .char '\r'
  · exact Or.inr ⟨.char 'r', by rw [carriage]; rfl, by rw [carriage]; rfl, by decide⟩
  · exact Or.inl ⟨written.eq_6 c backslash quote feed tab carriage, quote, backslash⟩

/-- A payload is escaped character by character, the first one first. -/
theorem escape_cons (c : CodePoint) (rest : Text) :
    escape (c :: rest) = written c ++ escape rest :=
  List.flatMap_cons

/-- Parts of a payload are escaped apart. No character looks at the next one. -/
theorem escape_append (first rest : Text) : escape (first ++ rest) = escape first ++ escape rest :=
  List.flatMap_append

/-- Undoing the escapes gives back every payload. Each escape that was written is one of those
    that are undone, and nothing else begins with a backslash. -/
theorem unescape_escape (payload : Text) : unescape (escape payload) = payload := by
  induction payload with
  | nil => rfl
  | cons c rest inductionHypothesis =>
    rw [escape_cons]
    rcases written_cases c with ⟨plain, _, notBackslash⟩ | ⟨mark, escaped, meaning, _⟩
    · rw [plain, List.singleton_append, unescape.eq_3, inductionHypothesis]
      exact fun _ _ backslash _ => notBackslash backslash
    · rw [escaped, List.cons_append, List.singleton_append, unescape, meaning,
        inductionHypothesis, List.singleton_append]

/-- An escaped payload may stand inside quotes, whatever it says. Its quotes and backslashes
    all stand behind a backslash. -/
theorem enclosed_escape (payload : Text) : Enclosed (escape payload) := by
  apply Enclosed.flatMap
  intro c
  rcases written_cases c with ⟨plain, notQuote, notBackslash⟩ | ⟨mark, escaped, _⟩
  · rw [plain]
    exact Enclosed.plain c notQuote notBackslash
  · rw [escaped]
    exact Enclosed.escaped mark

/-- No bare quote stands at the start of an escaped payload that a brace ends. So no quote
    behind a brace of the payload is taken for the one that closes the field. -/
theorem escape_ne_quote (payload behind rest : Text) :
    escape payload ++ ("\x7d" ++ behind) ≠ .char '"' :: rest := by
  intro form
  cases payload with
  | nil => exact absurd (List.cons.inj form).1 (by decide)
  | cons c payload =>
    rw [escape_cons] at form
    rcases written_cases c with ⟨plain, notQuote, _⟩ | ⟨mark, escaped, _⟩
    · rw [plain] at form
      exact notQuote (List.cons.inj form).1
    · rw [escaped] at form
      exact absurd (List.cons.inj form).1 (by decide)

/-- The first closing brace with a quote behind it is the one that ends an escaped
    payload. -/
theorem untilClosed?_escape (payload behind : Text) :
    untilClosed? (escape payload ++ ("\x7d\"" ++ behind)) = some (escape payload ++ "\x7d") := by
  induction payload with
  | nil => rfl
  | cons c rest inductionHypothesis =>
    rw [escape_cons]
    rcases written_cases c with ⟨plain, _⟩ | ⟨mark, escaped, _, notBrace⟩
    · rw [plain, List.append_assoc, List.singleton_append, untilClosed?.eq_3,
        inductionHypothesis]
      · rfl
      · intro behindQuote _ quote
        exact escape_ne_quote rest ("\"" ++ behind) behindQuote quote
    · rw [escaped, List.append_assoc, List.cons_append, List.singleton_append,
        untilClosed?.eq_3, untilClosed?.eq_3, inductionHypothesis]
      · rfl
      · exact fun _ brace _ => notBrace brace
      · exact fun _ brace _ => absurd brace (by decide)

/-- A text field that begins with an escaped payload in quotes has this payload, up to its own
    last brace. What follows the field makes no difference. -/
theorem payloadHere?_escape (inner behind : Text) :
    payloadHere? ("text: \"" ++ (escape ("\x7b" ++ (inner ++ "\x7d")) ++ ("\"" ++ behind))) =
      some (escape ("\x7b" ++ (inner ++ "\x7d"))) := by
  refine (payloadHere?_eq_some _ _).mpr
    ⟨" ", escape inner ++ ("\x7d\"" ++ behind), escape inner ++ "\x7d", ?_, by decide,
      untilClosed?_escape inner behind, ?_⟩
  · rw [escape_append, escape_append]
    simp only [List.append_assoc]
    rfl
  · rw [escape_append, escape_append]
    rfl

/-- No payload is found at the start of a text that holds its first text field further
    behind: a field that began there would reach into that one. -/
theorem payloadHere?_of_noField (c : CodePoint) (front rest : Text)
    (noField : Text.includes (c :: front ++ "text") "text:" = false) :
    payloadHere? (c :: front ++ ("text:" ++ rest)) = none := by
  by_contra found
  obtain ⟨payload, found⟩ := Option.ne_none_iff_exists'.mp found
  obtain ⟨gap, quoted, _, form, _⟩ := (payloadHere?_eq_some _ payload).mp found
  have field : ("text:" : Text) <+: c :: front ++ ("text:" ++ rest) := by
    rw [form, List.append_assoc]
    exact List.prefix_append _ _
  have part : c :: front ++ ("text" : Text) <+: c :: front ++ ("text:" ++ rest) :=
    ⟨":" ++ rest, List.append_assoc _ _ _⟩
  have opens : ("text:" : Text) <+: c :: front ++ "text" := by
    apply List.prefix_of_prefix_length_le field part
    simp only [List.length_append, List.length_cons]
    exact Nat.succ_le_succ (Nat.le_add_left 4 front.length)
  obtain ⟨behind, form⟩ := opens
  have included := Text.includes_of_form [] "text:" behind
  rw [List.nil_append, form, noField] at included
  cases included

/-- The payload is found in the first text field there is: in front of it no text
    field begins, not even one that reaches into it. -/
theorem escapedPayload?_behind (front rest payload : Text)
    (noField : Text.includes (front ++ "text") "text:" = false)
    (here : payloadHere? ("text:" ++ rest) = some payload) :
    escapedPayload? (front ++ ("text:" ++ rest)) = some payload := by
  induction front with
  | nil =>
    have found : escapedPayload? ("text:" ++ rest) =
        (payloadHere? ("text:" ++ rest)).or (escapedPayload? ("ext:" ++ rest)) := rfl
    rw [List.nil_append, found, here, Option.some_or]
  | cons c front inductionHypothesis =>
    have notHere := payloadHere?_of_noField c front rest noField
    have others : Text.includes (front ++ "text") "text:" = false := by
      rw [List.cons_append, Text.includes, Text.afterFirst?, Option.isSome_or,
        Bool.or_eq_false_iff] at noField
      exact noField.2
    rw [List.cons_append] at notHere ⊢
    rw [escapedPayload?, notHere, Option.none_or]
    exact inductionHypothesis others

end AgentRuns.Block
