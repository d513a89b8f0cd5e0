import AgentRuns.Text.Ranges

/-!
# Blank characters

The blank characters are those that separate words: the controls from tab to
carriage return, the four information separators, and every space of the
character standard, the no-break spaces included. The zero-width space and the
byte order mark are not blank.

Stripping removes blanks at both ends only; the words of a text are its
non-empty runs of characters that are not blank.
-/

namespace AgentRuns.Text

/-- The twenty-nine blank characters. -/
def blankRanges : Ranges :=
  [(0x9, 0xD), (0x1C, 0x20), (0x85, 0x85), (0xA0, 0xA0), (0x1680, 0x1680),
    (0x2000, 0x200A), (0x2028, 0x2029), (0x202F, 0x202F), (0x205F, 0x205F),
    (0x3000, 0x3000)]

/-- Whether the character separates words. -/
def isBlank (c : CodePoint) : Bool := blankRanges.holds c.toNat

/-- Whether the text has no character that is not blank. -/
def allBlank (text : Text) : Bool := text.all isBlank

/-- The text from its first character that is not blank. -/
def stripStart (text : Text) : Text := text.dropWhile isBlank

/-- The text up to its last character that is not blank. -/
def stripEnd (text : Text) : Text := (text.reverse.dropWhile isBlank).reverse

/-- The text without blanks at either end. -/
def strip (text : Text) : Text := stripEnd (stripStart text)

/-- The runs of characters that are not blank, in order. -/
def words (text : Text) : List Text := (text.splitOnP isBlank).filter (!·.isEmpty)

end AgentRuns.Text
