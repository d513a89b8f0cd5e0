import AgentRuns.Proofs.Text.Decoding
import AgentRuns.Text.Breaks

/-!
# Octets of texts

A text of characters is read back from its octets. A file of such a text gives the
text back if no carriage return is in it, which reading would turn into a line feed.
-/

namespace AgentRuns

/-- Nothing in ASCII is half a pair. All halves have numbers far beyond it. -/
theorem CodePoint.isHalf_of_ascii (c : CodePoint) (ascii : c.toNat < 0x80) : c.isHalf = false := by
  cases c with
  | char c => rfl
  | half place =>
    have beyond : firstHalf + place.val < 0x80 := ascii
    rw [firstHalf] at beyond
    omega

/-- A text of characters is shown as it is. Only a half of a pair is shown as another
    character. -/
theorem Text.shown_of_whole (text : Text) (whole : ∀ c ∈ text, c.isHalf = false) :
    text.map (fun c => .char c.shown) = text := by
  refine (List.map_congr_left fun c member => ?_).trans (List.map_id _)
  cases c with
  | char c => rfl
  | half place => cases whole _ member

/-- A text of characters is read back from its octets. Nothing in them is damage. -/
theorem Utf8.decode?_encode (text : Text) (whole : ∀ c ∈ text, c.isHalf = false) :
    decode? (encode text) = some text := by
  have same := text.shown_of_whole whole
  rw [decode?, decode_encode, List.mapM_map]
  exact (List.mapM_pure (m := Option)).trans (congrArg some same)

/-- A text without carriage returns has its line breaks as they are. Those that a file may
    have instead begin with one. -/
theorem Text.unifyBreaks_eq_self (text : Text) (noReturn : CodePoint.char '\r' ∉ text) :
    text.unifyBreaks = text := by
  fun_induction unifyBreaks text with
  | case1 | case2 => exact absurd List.mem_cons_self noReturn
  | case3 c rest _ _ inductionHypothesis =>
    rw [inductionHypothesis fun member => noReturn (List.mem_cons_of_mem c member)]
  | case4 => rfl

/-- A file of a text of characters without carriage returns has that text. Both conditions are
    needed: a half has no octets, and a carriage return is read as a line feed. -/
theorem Bytes.text?_encode (text : Text) (whole : ∀ c ∈ text, c.isHalf = false)
    (noReturn : CodePoint.char '\r' ∉ text) : Bytes.text? (Utf8.encode text) = some text := by
  rw [Bytes.text?, Utf8.decode?_encode text whole, Option.map_some,
    text.unifyBreaks_eq_self noReturn]

end AgentRuns
