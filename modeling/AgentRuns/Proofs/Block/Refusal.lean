import AgentRuns.Block.Summary
import AgentRuns.Proofs.Block.Growth
import AgentRuns.Proofs.Except
import AgentRuns.Proofs.Json.Brackets

/-!
# Results that cannot be summed up

A block cannot be summed up for two reasons. Its payload nests deeper than there is room
for, so it is not decoded and what it holds does not matter. Or it is decoded, and an entry
that is previewed has a score whose percentage cannot be written: the score is no
number, or its hundredfold is infinite, or it is an integer whose hundredfold
has too many digits. The first such entry decides. A token count cannot fail,
since an integer of a decoded payload has few enough digits, and neither can the
percentage of any other number, since rounded numbers have few digits.

A payload nests no deeper than it has brackets, and its escapes resolve to no bracket that
was not written. So a block without many brackets is only refused for such a score.
-/

namespace AgentRuns

namespace Summary

/-- Why the percentage of a score cannot be written. -/
inductive Unshowable : Json → SummaryError → Prop
  | noNumber : Unshowable (.float .nan) .scoreNotANumber
  | infinite (score : Binary64) (negative : Bool)
      (beyond : score.times 100 = .infinite negative) : Unshowable (.float score) .scoreInfinite
  | tooLong (score : Int) (beyond : maxDigits < (Text.ofNat (score * 100).natAbs).length) :
      Unshowable (.int score) .numberTooLong

/-- An entry with such a score. -/
def Faulty (entry : Json) (reason : SummaryError) : Prop :=
  ∃ score, entry.field? "score" = some score ∧ Unshowable score reason

/-- Only an integer of too many digits cannot be written. Its sign is not counted. -/
theorem digits_eq_error (number : Int) (reason : SummaryError) :
    digits number = .error reason ↔
      maxDigits < (Text.ofNat number.natAbs).length ∧ reason = .numberTooLong := by
  unfold digits Text.ofInt?
  split
  · rename_i written
    split at written
    · rename_i within
      simp [Nat.not_lt.mpr within]
    · cases written
  · rename_i unwritten
    split at unwritten
    · cases unwritten
    · rename_i beyond
      simp [Nat.not_le.mp beyond, eq_comm]

/-- A rounded percentage can be written. It comes from a number that fits the format, and that
    has a few hundred digits at most. -/
theorem length_rounded_le (score : Binary64) (nearest : Int)
    (rounded : (score.times 100).round? = some nearest) :
    (Text.ofNat nearest.natAbs).length ≤ maxDigits := by
  have bounded := (score.times 100).natAbs_round?_le nearest (score.times_fits 100) rounded
  exact Text.length_ofNat_of_le _ 1025 maxDigits bounded (by decide)

/-- A score is an integer, or a number whose hundredfold is none, infinite, or
    rounded. -/
theorem percent?_cases (score : Json) (percent : Except SummaryError Int)
    (found : percent? score = some percent) :
    (∃ number, score = .int number ∧ percent = .ok (number * 100)) ∨
      (score = .float .nan ∧ percent = .error .scoreNotANumber) ∨
      (∃ number negative, score = .float number ∧ number.times 100 = .infinite negative ∧
        percent = .error .scoreInfinite) ∨
      ∃ number nearest, score = .float number ∧ (number.times 100).round? = some nearest ∧
        percent = .ok nearest := by
  cases score with
  | int number =>
    cases found
    exact Or.inl ⟨number, rfl, rfl⟩
  | float number =>
    cases scaled : number.times 100 with
    | nan =>
      simp only [percent?, scaled, Option.some.injEq] at found
      have noNumber : number = .nan := (number.times_eq_nan 100).mp scaled
      exact Or.inr (Or.inl ⟨congrArg Json.float noNumber, found.symm⟩)
    | infinite negative =>
      simp only [percent?, scaled, Option.some.injEq] at found
      exact Or.inr (Or.inr (Or.inl ⟨number, negative, rfl, scaled, found.symm⟩))
    | finite negative mantissa exponent =>
      simp only [percent?, scaled, Option.some.injEq] at found
      exact Or.inr (Or.inr (Or.inr ⟨number, _, rfl, by rw [scaled]; rfl, found.symm⟩))
  | null | bool | string | list | object => cases found

/-- A percentage cannot be written exactly for those scores. A float fails when it is rounded,
    and an integer when it is written. -/
theorem percent_eq_error (score : Json) (percent : Except SummaryError Int)
    (found : percent? score = some percent) (reason : SummaryError) :
    (percent >>= digits) = .error reason ↔ Unshowable score reason := by
  constructor
  · intro failed
    rcases percent?_cases score percent found with ⟨number, rfl, rfl⟩ | ⟨rfl, rfl⟩ |
      ⟨number, negative, rfl, beyond, rfl⟩ | ⟨number, nearest, rfl, rounded, rfl⟩
    · obtain ⟨beyond, rfl⟩ := (digits_eq_error _ reason).mp failed
      exact .tooLong number beyond
    · cases failed
      exact .noNumber
    · cases failed
      exact .infinite number negative beyond
    · have beyond := ((digits_eq_error nearest reason).mp failed).1
      have within := length_rounded_le number nearest rounded
      exact absurd within (Nat.not_le.mpr beyond)
  · intro unshowable
    cases unshowable with
    | noNumber =>
      cases found
      rfl
    | infinite number negative beyond =>
      simp only [percent?, beyond, Option.some.injEq] at found
      rw [← found]
      rfl
    | tooLong number beyond =>
      cases found
      exact (digits_eq_error _ _).mpr ⟨beyond, rfl⟩

/-- An entry cannot be previewed exactly if it is faulty. Only its score can be at fault:
    every text can be shown. -/
theorem preview_eq_error (entry : Json) (reason : SummaryError) :
    preview entry = .error reason ↔ Faulty entry reason := by
  have noScore (none : (entry.field? "score").bind percent? = none) : ¬Faulty entry reason := by
    rintro ⟨score, found, unshowable⟩
    rw [found, Option.bind_some] at none
    cases unshowable <;> cases none
  cases entry with
  | object fields =>
    simp only [preview]
    cases scored : ((Json.object fields).field? "score").bind percent? with
    | none => simp [noScore scored, pure, Except.pure]
    | some percent =>
      obtain ⟨score, found, isScore⟩ := Option.bind_eq_some_iff.mp scored
      have same : Faulty (.object fields) reason ↔ Unshowable score reason := by
        simp [Faulty, found]
      rw [same, ← percent_eq_error score percent isScore reason]
      cases percent with
      | error other => simp [bind, Except.bind]
      | ok number =>
        cases written : digits number <;>
          simp [bind, Except.bind, pure, Except.pure, written]
  | null | bool | int | float | string | list =>
    simp [preview, noScore rfl, pure, Except.pure]

/-- An entry is faulty for one reason, or it can be previewed. It is never both. -/
theorem preview_eq_ok (entry : Json) :
    (∃ text, preview entry = .ok text) ↔ ∀ reason, ¬Faulty entry reason := by
  constructor
  · rintro ⟨text, shown⟩ reason faulty
    rw [(preview_eq_error entry reason).mpr faulty] at shown
    cases shown
  · intro sound
    cases shown : preview entry with
    | ok text => exact ⟨text, rfl⟩
    | error reason => exact absurd ((preview_eq_error entry reason).mp shown) (sound reason)

/-- The first faulty entry of those that are previewed, and why it is. -/
def FirstFaulty (entries : List Json) (reason : SummaryError) : Prop :=
  ∃ before entry after, entries.take maxPreviews = before ++ entry :: after ∧
    (∀ earlier ∈ before, ∀ other, ¬Faulty earlier other) ∧ Faulty entry reason

/-- Where the token count can be written, a headline is given. All numbers of a decoded
    payload can be. -/
theorem headline_eq_ok (payload : Json) (count : Nat)
    (writable : ∀ key value, payload.field? key = some value → value.Writable) :
    ∃ text, headline payload count = .ok text := by
  unfold headline
  cases counted : tokens? payload with
  | none => exact ⟨_, rfl⟩
  | some tokens =>
    have within : (Text.ofNat tokens.natAbs).length ≤ maxDigits := by
      unfold tokens? at counted
      split at counted
      · rename_i number found
        cases counted
        rcases Option.or_eq_some_iff.mp found with used | ⟨_, count⟩
        · exact writable _ _ used tokens rfl
        · exact writable _ _ count tokens rfl
      · cases counted
    have written : digits tokens = .ok (Text.ofInt tokens) := by
      simp [digits, Text.ofInt?, within]
    simp only [written]
    exact ⟨_, rfl⟩

/-- A search cannot be summed up exactly if a previewed entry is faulty. The first such entry
    decides, and entries behind the third are never looked at. -/
theorem ofEntries_eq_error (payload : Json) (entries : List Json) (reason : SummaryError)
    (writable : ∀ key value, payload.field? key = some value → value.Writable) :
    ofEntries payload entries = .error reason ↔ FirstFaulty entries reason := by
  obtain ⟨first, headed⟩ := headline_eq_ok payload entries.length writable
  have previews : (entries.take maxPreviews).mapM preview = .error reason ↔
      FirstFaulty entries reason := by
    rw [mapM_eq_error]
    simp only [preview_eq_ok, preview_eq_error, FirstFaulty]
  rw [ofEntries, headed, ← previews]
  cases (entries.take maxPreviews).mapM preview <;> simp [bind, Except.bind, pure, Except.pure]

/-- A search with a faulty entry, which cannot be summed up. -/
def FaultySearch (payload : Json) (reason : SummaryError) : Prop :=
  ∃ entries, payload.field? "results" = some (.list entries) ∧ FirstFaulty entries reason

/-- A payload cannot be summed up exactly if it is a search with a faulty entry. All other
    kinds of payloads have a summary, if an empty one. -/
theorem ofPayload_eq_error (payload : Json) (reason : SummaryError)
    (writable : ∀ key value, payload.field? key = some value → value.Writable) :
    ofPayload payload = .error reason ↔ FaultySearch payload reason := by
  have other (notSearch : ∀ entries, payload.field? "results" = some (.list entries) → False)
      (text : Text) : (Except.ok text : Except SummaryError Text) = .error reason ↔
        FaultySearch payload reason := by
    constructor
    · intro failed
      cases failed
    · rintro ⟨entries, search, _⟩
      exact (notSearch entries search).elim
  unfold ofPayload
  split
  · rename_i entries found
    simp [FaultySearch, found, ofEntries_eq_error payload entries reason writable]
  · rename_i notSearch
    exact other notSearch _
  · rename_i notSearch _
    exact other notSearch []

/-- Why a block cannot be summed up. A payload that nests too deeply is refused whatever it
    writes, one that was decoded is refused as a search with a faulty entry. -/
inductive Refused [NestingLimits] (block : Block) : SummaryError → Prop
  | faulty (payload : Json) (decoded : Block.payload block.text = .ok (some payload))
    (reason : SummaryError) (search : FaultySearch payload reason) : Refused block reason
  | tooDeep (bracket : Json.Bracket) (nested : Block.payload block.text = .error bracket) :
    Refused block (.tooDeep bracket)

/-- The fields of a payload that was decoded hold no integer that cannot be written. Its
    digits were counted when it was decoded. -/
theorem writable_of_payload [NestingLimits] (text : Text) (payload : Json)
    (decoded : Block.payload text = .ok (some payload)) (key : Text) (value : Json)
    (found : payload.field? key = some value) : value.Writable := by
  unfold Block.payload at decoded
  split at decoded
  · rename_i escaped _
    have read := (Json.orNone_eq_some _ payload).mp decoded
    exact Json.field?_writable _ _ payload value key read found
  · cases decoded

/-- A block cannot be summed up exactly for one of the reasons. Either its payload nests too
    deeply, or it is a search with a faulty entry. -/
theorem ofBlock_eq_error [NestingLimits] (block : Block) (reason : SummaryError) :
    ofBlock block = .error reason ↔ Refused block reason := by
  constructor
  · intro failed
    unfold ofBlock at failed
    split at failed
    · rename_i payload decoded
      have writable := writable_of_payload block.text payload decoded
      exact .faulty payload decoded reason
        ((ofPayload_eq_error payload reason writable).mp failed)
    · cases failed
    · rename_i bracket nested
      cases failed
      exact .tooDeep bracket nested
  · intro refused
    unfold ofBlock
    cases refused with
    | faulty payload decoded _ search =>
      have writable := writable_of_payload block.text payload decoded
      rw [decoded]
      exact (ofPayload_eq_error payload reason writable).mpr search
    | tooDeep bracket nested => rw [nested]

end Summary

/-! ## Blocks with few brackets -/

namespace Block

/-- What stands before the end of an object stands in the text that was searched for it. -/
theorem untilClosed?_begins (text body : Text) (closed : untilClosed? text = some body) :
    body <+: text := by
  induction text using untilClosed?.induct generalizing body with
  | case1 => cases closed
  | case2 rest =>
    cases closed
    exact ⟨_, rfl⟩
  | case3 c rest notClosing inductionHypothesis =>
    rw [untilClosed?.eq_3 c rest notClosing] at closed
    obtain ⟨tail, found, rfl⟩ := Option.map_eq_some_iff.mp closed
    exact (List.prefix_cons_inj c).mpr (inductionHypothesis tail found)

/-- An escaped payload is a part of the block's text. It begins with the brace behind the
    quote. -/
theorem escapedPayload?_inside (text payload : Text)
    (found : escapedPayload? text = some payload) : payload <:+: text := by
  induction text with
  | nil => cases found
  | cons c rest inductionHypothesis =>
    rw [escapedPayload?] at found
    rcases Option.or_eq_some_iff.mp found with here | ⟨_, later⟩
    · obtain ⟨gap, quoted, body, form, _, closed, rfl⟩ :=
        (payloadHere?_eq_some _ payload).mp here
      obtain ⟨behind, rfl⟩ := untilClosed?_begins quoted body closed
      refine ⟨("text:" ++ gap) ++ "\"", behind, ?_⟩
      rw [form, List.append_assoc, List.append_assoc]
      rfl
    · exact (inductionHypothesis later).trans (List.suffix_cons c rest).isInfix

/-- An escape stands for no bracket, and a character that cannot be escaped stands for itself
    behind its backslash. -/
theorem brackets_unescaped_le (c : CodePoint) :
    Json.brackets (unescaped c) ≤ Json.brackets [c] := by
  unfold unescaped
  split <;> simp [Json.brackets, Json.opensLevel]

/-- Resolving escapes brings no bracket in. The induction follows the escapes from left to
    right. -/
theorem brackets_unescape_le (text : Text) :
    Json.brackets (unescape text) ≤ Json.brackets text := by
  induction text using unescape.induct with
  | case1 => exact Nat.le_refl _
  | case2 c rest inductionHypothesis =>
    have one := brackets_unescaped_le c
    rw [unescape, Json.brackets, List.countP_append]
    simp only [Json.brackets, List.countP_cons, List.countP_nil] at one inductionHypothesis ⊢
    omega
  | case3 c rest noEscape inductionHypothesis =>
    rw [unescape.eq_3 c rest noEscape]
    simp only [Json.brackets, List.countP_cons] at inductionHypothesis ⊢
    omega

/-- A payload nests too deeply only in a block with more brackets than there is room for. -/
theorem room_lt_brackets_of_payload [NestingLimits] (text : Text) (bracket : Json.Bracket)
    (nested : payload text = .error bracket) : NestingLimits.payload < Json.brackets text := by
  unfold payload at nested
  split at nested
  · rename_i escaped found
    have refused := (Json.orNone_eq_error _ bracket).mp nested
    calc NestingLimits.payload
      _ < Json.brackets (unescape escaped) := Json.room_lt_brackets true _ _ bracket refused
      _ ≤ Json.brackets escaped := brackets_unescape_le escaped
      _ ≤ Json.brackets text := (escapedPayload?_inside text escaped found).sublist.countP_le
  · cases nested

end Block

/-- A block with no more brackets than there is room for is refused as a search with a faulty
    entry, or not at all. -/
theorem Summary.refused_iff_of_few_brackets [NestingLimits] (block : Block) (reason : SummaryError)
    (few : Json.brackets block.text ≤ NestingLimits.payload) :
    Refused block reason ↔ ∃ payload, Block.payload block.text = .ok (some payload) ∧
      FaultySearch payload reason := by
  constructor
  · intro refused
    cases refused with
    | faulty payload decoded _ search => exact ⟨payload, decoded, search⟩
    | tooDeep bracket nested =>
      have many := Block.room_lt_brackets_of_payload block.text bracket nested
      exact absurd few (Nat.not_le.mpr many)
  · rintro ⟨payload, decoded, search⟩
    exact .faulty payload decoded reason search

end AgentRuns
