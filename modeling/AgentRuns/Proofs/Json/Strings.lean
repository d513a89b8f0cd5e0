import AgentRuns.Json.Reader
import AgentRuns.Json.Writer
import Mathlib.Data.List.Forall2

/-!
# Strings written and read

A code point is written by itself, behind a backslash, or as the escapes of its
code units, and each of these is read back, whatever follows it. Only one thing
is lost: two halves of a pair that stand side by side as code points of their own
are written like the character of the pair, and read as that character. A text
with such pairs joined is read back exactly, and so is a text of characters.
-/

namespace AgentRuns

namespace CodePoint

/-- Every code point has a number below the end of the code points, halves of pairs included. -/
theorem toNat_lt (c : CodePoint) : c.toNat < 0x110000 := by
  cases c with
  | char c =>
    have valid := c.valid
    simp only [toNat, Char.toNat, UInt32.isValidChar, Nat.isValidChar] at valid ⊢
    omega
  | half place =>
    simp only [toNat, firstHalf]
    omega

/-- A number below the end of the code points is that of its code point. So a code point is
    told by its number. -/
theorem toNat_ofNat (code : Nat) (inside : code < 0x110000) : (ofNat code).toNat = code := by
  unfold ofNat
  split
  · rename_i half
    exact Nat.add_sub_cancel' half.1
  · rename_i noHalf
    have valid : code.isValidChar := by
      simp only [Nat.isValidChar, firstHalf] at noHalf ⊢
      omega
    rw [toNat, Char.ofNat, dif_pos valid]
    rfl

end CodePoint

/-- The text with the two halves of a pair side by side as the character that
    they are together. -/
def Text.joined : Text → Text
  | .half high :: .half low :: rest =>
    if high.val < 0x400 ∧ 0x400 ≤ low.val then
      .ofNat (0x10000 + high * 0x400 + (low - 0x400)) :: joined rest
    else .half high :: joined (.half low :: rest)
  | c :: rest => c :: joined rest
  | [] => []

/-- A text of characters has nothing to join. Only a high half that a low one follows is
    joined, and there is no half at all. -/
theorem Text.joined_of_whole (text : Text) (whole : ∀ c ∈ text, c.isHalf = false) :
    text.joined = text := by
  fun_induction joined text with
  | case1 high low rest | case2 high low rest =>
    exact nomatch whole (.half high) List.mem_cons_self
  | case3 c rest other inductionHypothesis =>
    rw [inductionHypothesis fun d member => whole d (List.mem_cons_of_mem c member)]
  | case4 => rfl

namespace Json

/-! ## Code units -/

/-- The last digit is the remainder by sixteen. The digits before it are those of the
    quotient, in one place less. -/
theorem hex_succ (width number : Nat) (someDigit : 0 < width) :
    hex (width + 1) number =
      hex width (number / 16) ++ [.char (Nat.digitChar (number % 16))] := by
  rw [hex, hex, Nat.toDigits_eq_if (n := number) (by decide)]
  split
  · rename_i small
    rw [Nat.div_eq_of_lt small, Nat.mod_eq_of_lt small]
    obtain ⟨more, rfl⟩ := Nat.exists_eq_succ_of_ne_zero (Nat.ne_of_gt someDigit)
    simp [Text.ofChars, List.leftpad, List.replicate_succ']
  · simp [Text.ofChars, List.leftpad]

/-- The four digits of a code unit, each by its place. Leading zeros are written, so every
    unit has four. -/
theorem hex_four (unit : Nat) (small : unit < 0x10000) :
    hex 4 unit =
      [.char (Nat.digitChar (unit / 0x1000)), .char (Nat.digitChar (unit / 0x100 % 16)),
        .char (Nat.digitChar (unit / 0x10 % 16)), .char (Nat.digitChar (unit % 16))] := by
  have first : hex 1 (unit / 16 / 16 / 16) = [.char (Nat.digitChar (unit / 16 / 16 / 16))] := by
    rw [hex, Nat.toDigits_of_lt_base (by omega)]
    simp [Text.ofChars, List.leftpad]
  rw [hex_succ 3 _ (by decide), hex_succ 2 _ (by decide), hex_succ 1 _ (by decide), first]
  simp [Nat.div_div_eq_div_mul]

/-- A digit that is written is read as itself. There are sixteen of them to look at. -/
theorem hexDigit?_digitChar :
    ∀ digit < 16, Text.hexDigit? (.char (Nat.digitChar digit)) = some digit := by
  decide

/-- An escape names its code unit. It is one part of the string, and the rest is read behind
    its four digits. -/
theorem quoted?_unitEscape (lenient : Bool) (unit : Nat) (rest : Text) (small : unit < 0x10000) :
    quoted? lenient (unitEscape unit ++ rest) =
      (quoted? lenient rest).map fun (pieces, after) => (.unit unit :: pieces, after) := by
  have value : ((unit / 0x1000 * 16 + unit / 0x100 % 16) * 16 + unit / 0x10 % 16) * 16 +
      unit % 16 = unit := by omega
  have named : unit? (.char (Nat.digitChar (unit / 0x1000)))
      (.char (Nat.digitChar (unit / 0x100 % 16))) (.char (Nat.digitChar (unit / 0x10 % 16)))
      (.char (Nat.digitChar (unit % 16))) = some unit := by
    rw [unit?, hexDigit?_digitChar _ (by omega), hexDigit?_digitChar _ (by omega),
      hexDigit?_digitChar _ (by omega), hexDigit?_digitChar _ (by omega)]
    exact congrArg some value
  rw [unitEscape, hex_four unit small]
  simp only [List.cons_append, List.nil_append]
  rw [quoted?, named]
  cases quoted? lenient rest <;> rfl

/-! ## Code points -/

/-- How a code point is written in ASCII, and the parts that are read of it. -/
inductive Escaped : CodePoint → Text → List Piece → Prop
  | letter (c : Char) (letter : CodePoint) (named : escaped? letter = some (.char c)) :
    Escaped c ['\\', letter] [.point c]
  | plain (c : Char) (printed : 0x20 ≤ c.toNat) (noQuote : c ≠ '"') (noEscape : c ≠ '\\') :
    Escaped c [c] [.point c]
  | unit (c : CodePoint) (small : c.toNat < 0x10000) :
    Escaped c (unitEscape c.toNat) [.unit c.toNat]
  | pair (c : CodePoint) (offset : Nat) (large : c.toNat = 0x10000 + offset) :
    Escaped c (unitEscape (0xD800 + offset / 0x400) ++ unitEscape (0xDC00 + offset % 0x400))
      [.unit (0xD800 + offset / 0x400), .unit (0xDC00 + offset % 0x400)]

/-- Every code point is written in one of these ways. Which one it is depends on its number
    alone. -/
theorem exists_escaped (c : CodePoint) : ∃ pieces, Escaped c (escapeChar true c) pieces := by
  unfold escapeChar
  split
  case h_8 =>
    dsimp only
    split
    · rename_i control
      exact ⟨_, .unit c (Nat.lt_trans control (by decide))⟩
    · split
      · rename_i noQuote noEscape _ _ _ _ _ printed ascii
        cases c with
        | char c =>
          exact ⟨_, .plain c (Nat.not_lt.mp printed) (fun same => noQuote (by rw [same]))
            fun same => noEscape (by rw [same])⟩
        | half place =>
          have small : 0xD800 + place.val < 0x7F := of_decide_eq_true ascii
          omega
      · split
        · rename_i small
          exact ⟨_, .unit c small⟩
        · rename_i large
          exact ⟨_, .pair c (c.toNat - 0x10000) (by omega)⟩
  all_goals exact ⟨_, .letter _ _ rfl⟩

/-- A code point beyond ASCII is written as its code units. One from the planes behind the
    first has two, a high half and a low one. -/
theorem escapeChar_beyond (c : CodePoint) (beyond : 0x7F ≤ c.toNat) :
    escapeChar true c =
      if c.toNat < 0x10000 then unitEscape c.toNat
      else unitEscape (0xD800 + (c.toNat - 0x10000) / 0x400) ++
        unitEscape (0xDC00 + (c.toNat - 0x10000) % 0x400) := by
  unfold escapeChar
  split
  case h_8 =>
    have noControl : ¬c.toNat < 0x20 := by omega
    have noAscii : ¬c.toNat < 0x7F := by omega
    simp [noControl, noAscii]
  all_goals exact absurd beyond (by decide)

/-- What is written of a code point is read as its parts, whatever follows. Reading stops at
    the next part and carries nothing over. -/
theorem Escaped.quoted? {c : CodePoint} {text : Text} {pieces : List Piece}
    (escaped : Escaped c text pieces) (lenient : Bool) (rest : Text) :
    quoted? lenient (text ++ rest) =
      (quoted? lenient rest).map fun (others, after) => (pieces ++ others, after) := by
  cases escaped with
  | letter c letter named =>
    have notUnit : letter ≠ .char 'u' := by
      rintro rfl
      cases named
    simp only [List.cons_append, List.nil_append]
    rw [Json.quoted?]
    · rw [named]
      cases Json.quoted? lenient rest <;> rfl
    · intro _ _ _ _ _ same
      exact absurd same notUnit
  | plain c printed noQuote noEscape =>
    have noControl : ¬(CodePoint.char c).toNat < 0x20 := Nat.not_lt.mpr printed
    simp only [List.cons_append, List.nil_append]
    rw [Json.quoted?]
    · simp only [noControl, decide_false, Bool.false_and]
      cases Json.quoted? lenient rest <;> rfl
    · simpa using noQuote
    · simp [noEscape]
    · simp [noEscape]
  | unit c small => exact quoted?_unitEscape lenient _ rest small
  | pair c offset large =>
    have bounded := c.toNat_lt
    rw [List.append_assoc, quoted?_unitEscape _ _ _ (by omega),
      quoted?_unitEscape _ _ _ (by omega), Option.map_map]
    rfl

/-! ## Joining -/

/-- A code unit that is no high half of a pair is a code point by itself, whatever follows. -/
theorem joinUnits_unit (unit : Nat) (rest : List Piece) (noHigh : isHighHalf unit = false) :
    joinUnits (.unit unit :: rest) = .ofNat unit :: joinUnits rest := by
  cases rest with
  | nil => rfl
  | cons piece rest => cases piece <;> simp [joinUnits, noHigh]

/-- The parts do not begin with the low half of a pair. -/
def NoLowHalf : List Piece → Prop
  | .unit unit :: _ => isLowHalf unit = false
  | _ => True

/-- A code unit that no low half follows is a code point by itself. It may be a high half that
    stands alone. -/
theorem joinUnits_alone (unit : Nat) (rest : List Piece) (alone : NoLowHalf rest) :
    joinUnits (.unit unit :: rest) = .ofNat unit :: joinUnits rest := by
  cases rest with
  | nil => rfl
  | cons piece rest =>
    cases piece with
    | point => simp [joinUnits]
    | unit low => simp [joinUnits, show isLowHalf low = false from alone]

/-- The number of a character is no half of a pair. The halves have a range of their own that
    no character is in. -/
theorem char_no_half (c : Char) :
    isHighHalf (CodePoint.char c).toNat = false ∧ isLowHalf (CodePoint.char c).toNat = false := by
  have apart : (CodePoint.char c).toNat < 0xD800 ∨ 0xDFFF < (CodePoint.char c).toNat := by
    have valid := c.valid
    simp only [CodePoint.toNat, Char.toNat, UInt32.isValidChar, Nat.isValidChar] at valid ⊢
    omega
  simp only [isHighHalf, isLowHalf, Bool.and_eq_false_iff, decide_eq_false_iff_not]
  omega

/-- The parts of a character are the character, whatever follows, and nothing
    before them is joined with them. -/
theorem Escaped.joinUnits_char {c : Char} {text : Text} {pieces : List Piece}
    (escaped : Escaped c text pieces) (rest : List Piece) :
    joinUnits (pieces ++ rest) = .char c :: joinUnits rest ∧ NoLowHalf (pieces ++ rest) := by
  cases escaped with
  | letter => exact ⟨rfl, trivial⟩
  | plain => exact ⟨rfl, trivial⟩
  | unit =>
    obtain ⟨noHigh, noLow⟩ := char_no_half c
    refine ⟨?_, noLow⟩
    rw [List.cons_append, List.nil_append, joinUnits_unit _ _ noHigh, CodePoint.ofNat_toNat]
  | pair _ offset large =>
    have bounded := CodePoint.toNat_lt c
    have halves : (isHighHalf (0xD800 + offset / 0x400) &&
        isLowHalf (0xDC00 + offset % 0x400)) = true := by
      simp only [isHighHalf, isLowHalf, Bool.and_eq_true, decide_eq_true_eq]
      omega
    have whole : 0x10000 + (0xD800 + offset / 0x400 - 0xD800) * 0x400 +
        (0xDC00 + offset % 0x400 - 0xDC00) = (CodePoint.char c).toNat := by
      omega
    constructor
    · rw [List.cons_append, List.cons_append, List.nil_append, joinUnits, halves, if_pos rfl,
        whole, CodePoint.ofNat_toNat]
    · simp only [List.cons_append, NoLowHalf, isLowHalf, Bool.and_eq_false_iff,
        decide_eq_false_iff_not]
      omega

/-- A half by itself is written as one code unit, and it is read as that unit. -/
theorem Escaped.half {place : Fin 0x800} {text : Text} {pieces : List Piece}
    (escaped : Escaped (.half place) text pieces) : pieces = [.unit (0xD800 + place)] := by
  cases escaped with
  | unit => rfl
  | pair _ offset large =>
    have small : 0xD800 + place.val = 0x10000 + offset := large
    omega

/-! ## Texts -/

/-- The parts of every code point of a text. -/
def EscapedAll (content : Text) (parts : List (List Piece)) : Prop :=
  List.Forall₂ (fun c pieces => Escaped c (escapeChar true c) pieces) content parts

/-- Every text is written code point by code point, each with parts of its own. -/
theorem exists_escapedAll (content : Text) : ∃ parts, EscapedAll content parts := by
  induction content with
  | nil => exact ⟨[], .nil⟩
  | cons c content inductionHypothesis =>
    obtain ⟨pieces, escaped⟩ := exists_escaped c
    obtain ⟨parts, others⟩ := inductionHypothesis
    exact ⟨pieces :: parts, .cons escaped others⟩

/-- The parts of a string's code points are read up to its closing quote. No quote inside is
    bare, so the first bare one closes it. -/
theorem quoted?_escaped (lenient : Bool) (content rest : Text) (parts : List (List Piece))
    (escaped : EscapedAll content parts) :
    quoted? lenient (content.flatMap (escapeChar true) ++ CodePoint.char '"' :: rest) =
      some (parts.flatten, rest) := by
  induction escaped with
  | nil => simp [quoted?]
  | cons first _ inductionHypothesis =>
    rw [List.flatMap_cons, List.append_assoc, first.quoted?, inductionHypothesis]
    rfl

/-- The parts of a text's code points are the text with its pairs joined. A high half and a
    low one that were written apart are one character when they are read. -/
theorem joinUnits_escaped (content : Text) (parts : List (List Piece))
    (escaped : EscapedAll content parts) : joinUnits parts.flatten = content.joined := by
  fun_induction Text.joined content generalizing parts with
  | case1 high low rest paired inductionHypothesis =>
    obtain - | ⟨first, - | ⟨second, others⟩⟩ := escaped
    have halves : (isHighHalf (0xD800 + high) && isLowHalf (0xD800 + low)) = true := by
      simp only [isHighHalf, isLowHalf, Bool.and_eq_true, decide_eq_true_eq]
      omega
    have whole : 0x10000 + (0xD800 + high.val - 0xD800) * 0x400 + (0xD800 + low.val - 0xDC00) =
        0x10000 + high * 0x400 + (low - 0x400) := by omega
    rw [first.half, second.half, List.flatten_cons, List.flatten_cons, List.cons_append,
      List.nil_append, List.cons_append, List.nil_append, joinUnits, halves, if_pos rfl, whole,
      inductionHypothesis _ others]
  | case2 high low rest unpaired inductionHypothesis =>
    obtain - | ⟨first, others⟩ := escaped
    have behind := inductionHypothesis _ others
    obtain - | ⟨second, later⟩ := others
    have noHalves : (isHighHalf (0xD800 + high) && isLowHalf (0xD800 + low)) = false := by
      simp only [isHighHalf, isLowHalf, Bool.and_eq_false_iff, decide_eq_false_iff_not]
      omega
    rw [List.flatten_cons, first.half, List.cons_append, List.nil_append, ← behind,
      List.flatten_cons, second.half, List.cons_append, List.nil_append, joinUnits, noHalves]
    exact congrArg (· :: _) (CodePoint.ofNat_toNat (.half high))
  | case3 c rest other inductionHypothesis =>
    obtain - | ⟨first, others⟩ := escaped
    rw [← inductionHypothesis _ others, List.flatten_cons]
    cases c with
    | char c => exact (first.joinUnits_char _).1
    | half place =>
      rw [first.half, List.cons_append, List.nil_append, joinUnits_alone]
      · exact congrArg (· :: _) (CodePoint.ofNat_toNat (.half place))
      · cases others with
        | nil => trivial
        | @cons d _ _ _ second _ =>
          cases d with
          | char d => exact (second.joinUnits_char _).2
          | half low => exact (other place low _ rfl rfl).elim
  | case4 =>
    cases escaped
    rfl

/-- A written string is read with its pairs joined. This holds of every text and whatever
    stands behind it, and leniency makes no difference. -/
theorem string?_escaped (lenient : Bool) (content rest : Text) :
    string? lenient (content.flatMap (escapeChar true) ++ CodePoint.char '"' :: rest) =
      some (content.joined, rest) := by
  obtain ⟨parts, escaped⟩ := exists_escapedAll content
  rw [string?, quoted?_escaped lenient content rest parts escaped, Option.map_some]
  exact congrArg (fun text => some (text, rest)) (joinUnits_escaped content parts escaped)

/-- Joining the pairs changes nothing that is written. A character beyond the first plane is
    written as the two halves that it was joined from. -/
theorem escape_joined (content : Text) :
    content.joined.flatMap (escapeChar true) = content.flatMap (escapeChar true) := by
  fun_induction Text.joined content with
  | case1 high low rest paired inductionHypothesis =>
    have number := CodePoint.toNat_ofNat (0x10000 + high * 0x400 + (low - 0x400)) (by omega)
    have first : (CodePoint.half high).toNat = 0xD800 + high.val := rfl
    have second : (CodePoint.half low).toNat = 0xD800 + low.val := rfl
    have highUnit : 0xD800 + (0x10000 + high.val * 0x400 + (low.val - 0x400) - 0x10000) / 0x400 =
        0xD800 + high.val := by omega
    have lowUnit : 0xDC00 + (0x10000 + high.val * 0x400 + (low.val - 0x400) - 0x10000) % 0x400 =
        0xD800 + low.val := by omega
    rw [List.flatMap_cons, List.flatMap_cons, List.flatMap_cons, inductionHypothesis,
      escapeChar_beyond _ (by omega), escapeChar_beyond _ (by omega),
      escapeChar_beyond _ (by omega), number, first, second, if_neg (by omega),
      if_pos (by omega), if_pos (by omega), highUnit, lowUnit, List.append_assoc]
  | case2 high low rest unpaired inductionHypothesis =>
    rw [List.flatMap_cons, inductionHypothesis]
    rfl
  | case3 c rest other inductionHypothesis =>
    rw [List.flatMap_cons, inductionHypothesis, List.flatMap_cons]
  | case4 => rfl

/-- A string with its pairs joined is written as it was without. -/
theorem quote_joined (content : Text) : quote true content.joined = quote true content := by
  rw [quote, escape_joined, quote]

end Json

/-- Nothing is left to join: both texts are written alike, and read alike. -/
theorem Text.joined_joined (content : Text) : content.joined.joined = content.joined := by
  have again := Json.string?_escaped false content.joined []
  rw [Json.escape_joined, Json.string?_escaped] at again
  exact (Prod.mk.inj (Option.some.inj again)).1.symm

end AgentRuns
