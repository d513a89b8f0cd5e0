import AgentRuns.Text.CodePoint

/-!
# Text

A text is the list of its code points. Lengths, cuts and positions therefore
count whole characters, never bytes, and every function on text is a function
on lists with the list library's laws.

Lines are what stands between line feeds. Splitting and joining are inverse to
each other on lists of at least one line whose lines hold no line feed; no other
character breaks a line, a carriage return in particular stays where it is.
-/

namespace AgentRuns

/-- A text is the list of its code points. -/
abbrev Text := List CodePoint

/-- A line is a text that stands between line feeds. That none is inside is a
    promise of whoever split the text, not part of the type. -/
abbrev Line := Text

namespace Text

/-- The text of characters. -/
def ofChars (chars : List Char) : Text := chars.map .char

/-- The text of a string. -/
def ofString (string : String) : Text := ofChars string.toList

instance : Coe String Text := ⟨ofString⟩

/-- The text as a string, with replacement characters for its halves of pairs. -/
def string (text : Text) : String := String.ofList (text.map CodePoint.shown)

/-- The decimal digits of a count, without leading zeros. -/
def ofNat (count : Nat) : Text := ofChars (Nat.toDigits 10 count)

/-- The decimal digits of an integer behind a minus sign if it is negative. -/
def ofInt : Int → Text
  | .ofNat count => ofNat count
  | .negSucc count => '-' :: ofNat (count + 1)

/-- The parts with `between` between neighbours. -/
def join (between : Text) (parts : List Text) : Text := between.intercalate parts

/-- The lines of a text; the empty text is one empty line. -/
def lines (text : Text) : List Line := text.splitOn '\n'

/-- Lines with one line feed between neighbours and none at the end. -/
def unlines (lines : List Line) : Text := [CodePoint.char '\n'].intercalate lines

/-- Splitting loses nothing: the lines of a text make up the text. -/
theorem unlines_lines (text : Text) : unlines (lines text) = text :=
  List.intercalate_splitOn (CodePoint.char '\n')

/-- Joining loses nothing either, as long as there is a line and no line holds
    a line feed. -/
theorem lines_unlines (given : List Line) (someLine : given ≠ [])
    (unbroken : ∀ line ∈ given, CodePoint.char '\n' ∉ line) : lines (unlines given) = given :=
  List.splitOn_intercalate (CodePoint.char '\n') unbroken someLine

/-- What follows `opening` when the text begins with it. -/
def after? (text opening : Text) : Option Text := opening.isPrefixOf? text

/-- Whether the text begins with `opening`. -/
def startsWith (text opening : Text) : Bool := opening.isPrefixOf text

/-- Whether the text ends with `ending`. -/
def endsWith (text ending : Text) : Bool := ending.isSuffixOf text

/-- What follows the leftmost occurrence of `part`, if it occurs at all. -/
def afterFirst? (part : Text) : Text → Option Text
  | [] => part.isPrefixOf? []
  | c :: rest => (part.isPrefixOf? (c :: rest)).or (afterFirst? part rest)

/-- Whether `part` occurs in the text. -/
def includes (text part : Text) : Bool := (afterFirst? part text).isSome

/-- A text of at most `limit` characters as it is, a longer one cut there and
    followed by an ellipsis of three points. -/
def abridge (limit : Nat) (text : Text) : Text :=
  if text.length ≤ limit then text else text.take limit ++ "..."

/-- The text, or `fallback` in place of the empty text. -/
def orElse (text fallback : Text) : Text :=
  if text.isEmpty then fallback else text

/-- An optional text that is present and not empty. -/
def present? (text : Option Text) : Option Text :=
  text.filter (!·.isEmpty)

/-- The text behind enough blanks to be `width` characters wide. -/
def alignRight (width : Nat) (text : Text) : Text := text.leftpad width ' '

/-- The text before enough blanks to be `width` characters wide. -/
def alignLeft (width : Nat) (text : Text) : Text := text.rightpad width ' '

/-- Order by code point, a text before all that continue it. -/
def le : Text → Text → Bool
  | [], _ => true
  | _ :: _, [] => false
  | a :: left, b :: right => a.toNat < b.toNat || (a == b && le left right)

end Text

end AgentRuns
