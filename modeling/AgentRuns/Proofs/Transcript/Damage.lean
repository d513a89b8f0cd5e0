import AgentRuns.Event.Stats
import AgentRuns.Proofs.Text.Lines
import AgentRuns.Proofs.Text.Octets
import AgentRuns.Transcript.Assembly
import AgentRuns.Transcript.Log

/-!
# Damaged logs

A log is read while it is written, or after its writer was killed, so its octets may
be anything. Whatever they are, a line feed stands between two lines that are read
each by itself: damage never swallows it and never reaches over it. Every text is
read back from its octets, in whichever of the three ways its line breaks are
written.
-/

namespace AgentRuns

/-- A way to write line breaks in a file. -/
inductive LineBreak
  | lineFeed
  | carriageReturn
  | both
  deriving DecidableEq

/-- The characters of a line break. -/
def LineBreak.text : LineBreak → Text
  | .lineFeed => ['\n']
  | .carriageReturn => ['\r']
  | .both => ['\r', '\n']

/-- No half of a pair stands in a line break. -/
theorem LineBreak.whole (mark : LineBreak) : ∀ c ∈ mark.text, c.isHalf = false := by
  cases mark <;> decide

namespace Text

/-- The text with each line feed written as a line break of a file. -/
def breakLines (mark : LineBreak) (text : Text) : Text :=
  text.flatMap fun c => if c = .char '\n' then mark.text else [c]

/-- No carriage return is left of line breaks. One with a line feed behind it goes with it,
    and any other one becomes a line feed. -/
theorem return_notMem_unifyBreaks (text : Text) : CodePoint.char '\r' ∉ text.unifyBreaks := by
  fun_induction unifyBreaks text with
  | case1 rest inductionHypothesis | case2 rest _ inductionHypothesis =>
    simpa using inductionHypothesis
  | case3 c rest _ notReturn inductionHypothesis =>
    rw [List.mem_cons, not_or]
    exact ⟨fun same => notReturn same.symm, inductionHypothesis⟩
  | case4 => exact List.not_mem_nil

/-- A carriage return with no line feed behind it is a line break of its own. -/
theorem unifyBreaks_return (rest : Text) (alone : rest.head? ≠ some (.char '\n')) :
    unifyBreaks (.char '\r' :: rest) = .char '\n' :: unifyBreaks rest :=
  unifyBreaks.eq_2 rest fun behind same => alone (by rw [same, List.head?_cons])

/-- What is no carriage return begins no line break of two characters. So it stays as it is. -/
theorem unifyBreaks_cons (c : CodePoint) (rest : Text) (other : c ≠ .char '\r') :
    unifyBreaks (c :: rest) = c :: unifyBreaks rest :=
  unifyBreaks.eq_3 c rest (fun _ same => absurd same other) other

/-- A line feed is a line break of its own, unless a carriage return stands before it. What
    stands before it is read by itself. -/
theorem unifyBreaks_feed (text rest : Text) (ends : text.getLast? ≠ some (.char '\r')) :
    unifyBreaks (text ++ .char '\n' :: rest) =
      unifyBreaks text ++ .char '\n' :: unifyBreaks rest := by
  fun_induction unifyBreaks text with
  | case1 text inductionHypothesis =>
    have endsToo : text.getLast? ≠ some (.char '\r') := by
      cases text with
      | nil => simp
      | cons => simpa using ends
    exact congrArg (CodePoint.char '\n' :: ·) (inductionHypothesis endsToo)
  | case2 text single inductionHypothesis =>
    cases text with
    | nil => exact absurd rfl ends
    | cons c text =>
      have alone : (c :: text ++ .char '\n' :: rest).head? ≠ some (.char '\n') := by
        rintro same
        cases same
        exact single text rfl
      rw [List.cons_append, unifyBreaks_return _ alone, inductionHypothesis (by simpa using ends),
        List.cons_append]
  | case3 c text _ notReturn inductionHypothesis =>
    have endsToo : text.getLast? ≠ some (.char '\r') := by
      cases text with
      | nil => simp
      | cons => simpa using ends
    rw [List.cons_append, unifyBreaks_cons c _ notReturn, inductionHypothesis endsToo,
      List.cons_append]
  | case4 => exact unifyBreaks_cons _ _ (by decide)

/-- Where line breaks are carriage returns, no line feed is left. So a carriage return is
    never taken for half of a line break. -/
theorem feed_notMem_breakLines (text : Text) :
    CodePoint.char '\n' ∉ text.breakLines .carriageReturn := by
  intro member
  obtain ⟨c, _, written⟩ := List.mem_flatMap.mp member
  split at written
  · simp [LineBreak.text] at written
  · rename_i other
    exact other (List.mem_singleton.mp written).symm

/-- Line breaks are read as line feeds, however they are written. The text must not have
    carriage returns of its own. -/
theorem unifyBreaks_breakLines (mark : LineBreak) (text : Text)
    (noReturn : CodePoint.char '\r' ∉ text) : (text.breakLines mark).unifyBreaks = text := by
  induction text with
  | nil => rfl
  | cons c text inductionHypothesis =>
    rw [List.mem_cons, not_or] at noReturn
    have others := inductionHypothesis noReturn.2
    rw [breakLines, List.flatMap_cons, ← breakLines]
    by_cases feed : c = .char '\n'
    · rw [if_pos feed, feed]
      cases mark with
      | lineFeed =>
        exact (unifyBreaks_cons _ _ (by decide)).trans (congrArg (CodePoint.char '\n' :: ·) others)
      | carriageReturn =>
        have alone : (breakLines .carriageReturn text).head? ≠ some (.char '\n') :=
          fun first => feed_notMem_breakLines text (List.mem_of_mem_head? first)
        exact (unifyBreaks_return _ alone).trans (congrArg (CodePoint.char '\n' :: ·) others)
      | both => exact congrArg (CodePoint.char '\n' :: ·) others
    · rw [if_neg feed, List.singleton_append, unifyBreaks_cons c _ (Ne.symm noReturn.1), others]

end Text

/-- The text of a file with a line feed in it is that of the octets before it and that
    of the octets behind it, unless a carriage return stands before the line feed. -/
theorem Bytes.textLossy_feed (before after : Bytes) (ends : before.getLast? ≠ some 0x0D) :
    textLossy (before ++ 0x0A :: after) =
      textLossy before ++ (.char '\n' :: textLossy after) := by
  rw [textLossy, Utf8.decodeLossy_feed, Text.unifyBreaks_feed]
  · rfl
  · exact fun returned => ends (Utf8.ends_of_decodeLossy before returned)

/-- The text of a file that was written for a text of characters is that text. No octet of it
    is replaced. -/
theorem Bytes.textLossy_encode (mark : LineBreak) (text : Text)
    (whole : ∀ c ∈ text, c.isHalf = false) (noReturn : CodePoint.char '\r' ∉ text) :
    textLossy (Utf8.encode (text.breakLines mark)) = text := by
  have written : ∀ c ∈ text.breakLines mark, c.isHalf = false := by
    intro c member
    obtain ⟨given, inside, written⟩ := List.mem_flatMap.mp member
    split at written
    · exact mark.whole c written
    · rw [List.mem_singleton.mp written]
      exact whole given inside
  rw [textLossy, Utf8.decodeLossy_encode, Text.shown_of_whole _ written,
    text.unifyBreaks_breakLines mark noReturn]

/-- Octets of a log that show what a text shows: its tails, its events and their
    statistics. -/
structure Log.Shows [NestingLimits] (octets : Bytes) (text : Text) : Prop where
  same : octets.textLossy = text
  tails : ∀ count, Log.tail count octets.textLossy = Log.tail count text
  events : Transcript.events octets.textLossy = Transcript.events text
  stats : (Transcript.events octets.textLossy).map EventStats.ofEvents =
    (Transcript.events text).map EventStats.ofEvents

/-- A log is read line by line. A line feed separates what is read before it from
    what is read behind it, whatever octets stand there, as long as no carriage return
    makes it the second half of a line break. No carriage return is ever read. A text
    of characters is read back, however its line breaks are written, and the log shows
    what the text shows. -/
theorem damage_stays_in_its_line [NestingLimits] :
    (∀ before after : Bytes, before.getLast? ≠ some 0x0D →
      Bytes.textLossy (before ++ 0x0A :: after) =
          before.textLossy ++ (.char '\n' :: after.textLossy) ∧
        (Bytes.textLossy (before ++ 0x0A :: after)).lines =
          before.textLossy.lines ++ after.textLossy.lines) ∧
      (∀ octets : Bytes, CodePoint.char '\r' ∉ octets.textLossy) ∧
      ∀ text : Text, (∀ c ∈ text, c.isHalf = false) → CodePoint.char '\r' ∉ text →
        ∀ mark : LineBreak, Log.Shows (Utf8.encode (text.breakLines mark)) text := by
  refine ⟨fun before after ends => ?_, fun octets => ?_, fun text whole noReturn mark => ?_⟩
  · have separate := Bytes.textLossy_feed before after ends
    exact ⟨separate, by rw [separate]; exact Text.lines_feed before.textLossy after.textLossy⟩
  · exact Text.return_notMem_unifyBreaks _
  · have same := Bytes.textLossy_encode mark text whole noReturn
    exact ⟨same, fun count => by rw [same], by rw [same], by rw [same]⟩

/-- A log that breaks off inside a character at the end of a line, and one with line
    breaks of two characters. -/
theorem broken_off_line_stays_alone :
    Bytes.textLossy [0x24, 0x20, 0xE2, 0x94, 0x0A, 0x80, 0x24] =
        Bytes.textLossy [0x24, 0x20, 0xE2, 0x94] ++ (.char '\n' :: Bytes.textLossy [0x80, 0x24]) ∧
      Bytes.textLossy (Utf8.encode (Text.breakLines .both "─── é 🪿\n\n$ ls\n")) =
        "─── é 🪿\n\n$ ls\n" := by
  obtain ⟨separate, _, readBack⟩ := damage_stays_in_its_line
  exact ⟨(separate [0x24, 0x20, 0xE2, 0x94] [0x80, 0x24] (by decide)).1,
    (readBack "─── é 🪿\n\n$ ls\n" (by decide) (by decide) .both).same⟩

end AgentRuns
