import AgentRuns.Block.Summary
import AgentRuns.Proofs.Text.Lines
import AgentRuns.Proofs.Transcript.Recognition

/-!
# Payloads of growing blocks

A block that is still being written shows its payload as soon as the payload is
closed. Whatever is written behind changes nothing: the payload of a text is the
payload of every text that continues it. The end of an object is the first one
there is, so it stays. Its opening is the leftmost one that is closed at all, and
an opening further left might be closed only by what comes later. It is not:
whatever closes an opening on its right closes it too, and no opening is broken
off at the end of a text that has a payload further on.

A block's summary therefore stays what it is when the block grows, unless it was
empty.
-/

namespace AgentRuns

namespace Block

/-- An object that is closed is closed by the same brace in every longer text. The search
    stops at the first end that it meets. -/
theorem untilClosed?_append (text more body : Text) (closed : untilClosed? text = some body) :
    untilClosed? (text ++ more) = some body := by
  induction text using untilClosed?.induct generalizing body with
  | case1 => cases closed
  | case2 rest => exact closed
  | case3 c rest notClosing inductionHypothesis =>
    rw [untilClosed?.eq_3 c rest notClosing] at closed
    obtain ⟨tail, found, rfl⟩ := Option.map_eq_some_iff.mp closed
    have still : ∀ behind, c = .char '}' → rest ++ more = .char '"' :: behind → False := by
      intro behind brace quote
      cases rest with
      | nil => cases found
      | cons d rest =>
        obtain ⟨rfl, _⟩ := List.cons.inj quote
        exact notClosing rest brace rfl
    rw [List.cons_append, untilClosed?.eq_3 c (rest ++ more) still,
      inductionHypothesis tail found]
    rfl

/-- An object is closed exactly if its end stands anywhere behind its opening. Escapes and
    quotes before the end are not looked at. -/
theorem isSome_untilClosed? (text : Text) : (untilClosed? text).isSome = true ↔
    ∃ inside behind, text = inside ++ ("\x7d\"" ++ behind) := by
  induction text using untilClosed?.induct with
  | case1 =>
    constructor
    · intro impossible
      cases impossible
    · rintro ⟨inside, behind, form⟩
      cases inside <;> cases form
  | case2 rest => exact ⟨fun _ => ⟨[], rest, rfl⟩, fun _ => rfl⟩
  | case3 c rest notClosing inductionHypothesis =>
    rw [untilClosed?.eq_3 c rest notClosing, Option.isSome_map, inductionHypothesis]
    constructor
    · rintro ⟨inside, behind, rfl⟩
      exact ⟨c :: inside, behind, rfl⟩
    · rintro ⟨inside, behind, form⟩
      cases inside with
      | nil =>
        obtain ⟨brace, quote⟩ := List.cons.inj form
        exact absurd quote (notClosing behind brace)
      | cons d inside => exact ⟨inside, behind, (List.cons.inj form).2⟩

/-- The form of a payload at the start of a text: a name, blanks, a quote with a brace, and
    what stands before the first end of an object. -/
theorem payloadHere?_eq_some (text payload : Text) :
    payloadHere? text = some payload ↔ ∃ gap quoted body : Text,
      text = ("text:" ++ gap) ++ ("\"\x7b" ++ quoted) ∧
      (∀ c ∈ gap, Text.isBlank c = true) ∧ untilClosed? quoted = some body ∧
      payload = .char '{' :: body := by
  simp only [payloadHere?, Option.bind_eq_bind, Option.bind_eq_some_iff, Text.after?_eq_some,
    Option.pure_def, Option.some.injEq]
  constructor
  · rintro ⟨field, rfl, quoted, quote, body, closed, rfl⟩
    refine ⟨field.takeWhile Text.isBlank, quoted, body, ?_, fun c => List.mem_takeWhile_imp,
      closed, rfl⟩
    rw [List.append_assoc, ← quote, Text.stripStart, List.takeWhile_append_dropWhile]
  · rintro ⟨gap, quoted, body, rfl, blank, closed, rfl⟩
    refine ⟨gap ++ ("\"\x7b" ++ quoted), List.append_assoc _ _ _, quoted, ?_, body, closed, rfl⟩
    rw [Text.stripStart, List.dropWhile_append_of_pos blank]
    rfl

/-- No quote stands in a field's name and the blanks behind it. So the first quote of the form
    is that of the payload. -/
theorem noQuote_in_field (gap : Text) (blank : ∀ c ∈ gap, Text.isBlank c = true) :
    CodePoint.char '"' ∉ ("text:" : Text) ++ gap := by
  intro member
  rcases List.mem_append.mp member with inName | inGap
  · exact absurd inName (by decide)
  · exact absurd (blank _ inGap) (by decide)

/-- A payload anywhere in a text has its opening and its end there, the one before the other. -/
theorem form_of_escapedPayload? (text payload : Text)
    (found : escapedPayload? text = some payload) :
    ∃ before inside behind, text = before ++ ("\"\x7b" ++ (inside ++ ("\x7d\"" ++ behind))) := by
  induction text with
  | nil => cases found
  | cons c rest inductionHypothesis =>
    rw [escapedPayload?] at found
    rcases Option.or_eq_some_iff.mp found with here | ⟨_, later⟩
    · obtain ⟨gap, quoted, body, form, _, closed, _⟩ :=
        (payloadHere?_eq_some _ payload).mp here
      obtain ⟨inside, behind, rfl⟩ :=
        (isSome_untilClosed? quoted).mp (Option.isSome_of_eq_some closed)
      exact ⟨_, inside, behind, form⟩
    · obtain ⟨before, inside, behind, rfl⟩ := inductionHypothesis later
      exact ⟨c :: before, inside, behind, rfl⟩

/-- A payload at the start of a text is there in every longer text. Its end was met before the
    text did end. -/
theorem payloadHere?_append (text more payload : Text)
    (found : payloadHere? text = some payload) : payloadHere? (text ++ more) = some payload := by
  obtain ⟨gap, quoted, body, rfl, blank, closed, rfl⟩ :=
    (payloadHere?_eq_some text payload).mp found
  refine (payloadHere?_eq_some _ _).mpr ⟨gap, quoted ++ more, body, ?_, blank,
    untilClosed?_append quoted more body closed, rfl⟩
  simp only [List.append_assoc]

/-- Where a text with an opening further on begins with an opening, everything
    behind the one further on stands behind the first. -/
theorem opening_before (middle ending quoted more : Text)
    (form : middle ++ ("\"\x7b" ++ ending) ++ more = "\"\x7b" ++ quoted) :
    ∃ inside, middle ++ ("\"\x7b" ++ ending) = "\"\x7b" ++ (inside ++ ending) := by
  match middle, form with
  | [], _ => exact ⟨[], rfl⟩
  | [_], form =>
    obtain ⟨_, brace⟩ := List.cons.inj form
    exact absurd (List.cons.inj brace).1 (by decide)
  | _ :: _ :: middle, form =>
    obtain ⟨rfl, brace⟩ := List.cons.inj form
    obtain ⟨rfl, _⟩ := List.cons.inj brace
    refine ⟨middle ++ "\"\x7b", ?_⟩
    rw [List.append_assoc]
    rfl

/-- If a longer text begins with a payload, so does a text that has a payload at
    all. The first quote of the longer text opens its payload. It stands within
    the text, since a payload there has a quote, and the end of that payload
    stands behind it. -/
theorem payloadHere?_of_append (text more payload later : Text)
    (here : payloadHere? (text ++ more) = some payload)
    (found : escapedPayload? text = some later) : (payloadHere? text).isSome = true := by
  obtain ⟨gap, quoted, body, form, blank, _, _⟩ := (payloadHere?_eq_some _ payload).mp here
  obtain ⟨before, inside, behind, rfl⟩ := form_of_escapedPayload? text later found
  have noQuote := noQuote_in_field gap blank
  obtain ⟨middle, split⟩ : ∃ middle, before = ("text:" ++ gap) ++ middle := by
    rw [List.append_assoc] at form
    rcases List.append_eq_append_iff.mp form with ⟨middle, split, rest⟩ | ⟨middle, split, _⟩
    · cases middle with
      | nil => exact ⟨[], by simpa using split.symm⟩
      | cons c middle =>
        obtain ⟨rfl, _⟩ := List.cons.inj rest
        exact absurd (split ▸ List.mem_append_right before List.mem_cons_self) noQuote
    · exact ⟨middle, split⟩
  obtain ⟨opened, same⟩ : ∃ opened, middle ++ ("\"\x7b" ++ (inside ++ ("\x7d\"" ++ behind))) =
      "\"\x7b" ++ (opened ++ (inside ++ ("\x7d\"" ++ behind))) := by
    rw [split, List.append_assoc, List.append_assoc, List.append_cancel_left_eq] at form
    exact opening_before middle _ quoted more ((List.append_assoc _ _ _).trans form)
  have closed : (untilClosed? (opened ++ (inside ++ ("\x7d\"" ++ behind)))).isSome = true :=
    (isSome_untilClosed? _).mpr ⟨opened ++ inside, behind, (List.append_assoc _ _ _).symm⟩
  obtain ⟨body, closes⟩ := Option.isSome_iff_exists.mp closed
  have found : payloadHere? (before ++ ("\"\x7b" ++ (inside ++ ("\x7d\"" ++ behind)))) =
      some (.char '{' :: body) := by
    refine (payloadHere?_eq_some _ _).mpr ⟨gap, _, body, ?_, blank, closes, rfl⟩
    rw [split, List.append_assoc, same]
  exact Option.isSome_of_eq_some found

/-- The payload of a text is the payload of every longer text. The search takes the first
    field with a payload, and a longer text has no earlier one. -/
theorem escapedPayload?_append (text more payload : Text)
    (found : escapedPayload? text = some payload) :
    escapedPayload? (text ++ more) = some payload := by
  induction text with
  | nil => cases found
  | cons c rest inductionHypothesis =>
    have whole := found
    rw [escapedPayload?] at found
    rw [List.cons_append, escapedPayload?]
    rcases Option.or_eq_some_iff.mp found with here | ⟨notHere, later⟩
    · have still := payloadHere?_append (c :: rest) more payload here
      rw [List.cons_append] at still
      rw [still, Option.some_or]
    · have stillNot : payloadHere? (c :: (rest ++ more)) = none := by
        cases longer : payloadHere? (c :: (rest ++ more)) with
        | none => rfl
        | some other =>
          have early := payloadHere?_of_append (c :: rest) more other payload longer whole
          rw [notHere] at early
          cases early
      rw [stillNot, Option.none_or]
      exact inductionHypothesis later

/-- A longer text has the decoded payload that the text has. Nothing is said of a text whose
    payload is not decoded, since a longer text may have another one. -/
theorem payload_append [NestingLimits] (text more : Text) (given : Json)
    (found : payload text = .ok (some given)) : payload (text ++ more) = .ok (some given) := by
  unfold payload at found ⊢
  split at found
  · rename_i escaped closed
    rw [escapedPayload?_append text more escaped closed]
    exact found
  · cases found

/-- A further line stands behind the text of a block. There is always a line before it, so a
    line feed stands between. -/
theorem text_add (block : Block) (line : Line) :
    ∃ more, (block.add line).text = block.text ++ more := by
  by_cases someLine : block.lines = []
  · exact ⟨line, by simp [text, add, someLine, Text.unlines]⟩
  · exact ⟨_, Text.unlines_append block.lines [line] someLine (by simp)⟩

end Block

/-- A block that has a summary keeps it when it grows. A summary that says something came from
    a payload, and the payload is the same in the longer text. -/
theorem Summary.ofBlock_add [NestingLimits] (block : Block) (line : Line) (summary : Text)
    (summed : ofBlock block = .ok summary) (someText : summary ≠ []) :
    ofBlock (block.add line) = .ok summary := by
  unfold ofBlock at summed ⊢
  split at summed
  · rename_i payload found
    obtain ⟨more, grown⟩ := block.text_add line
    rw [grown, Block.payload_append block.text more payload found]
    exact summed
  · cases summed
    exact absurd rfl someText
  · cases summed

end AgentRuns
