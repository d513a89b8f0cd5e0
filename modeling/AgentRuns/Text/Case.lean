import AgentRuns.Text.CaseTables

/-!
# Letter case

Both mappings are full: one character may become several, and the small form of
a sigma depends on its place. A capital sigma that ends a word takes the final
form: the nearest character before it that a word may not pass over is cased,
and the nearest such character after it is not.
-/

namespace AgentRuns.Text

/-- Whether the nearest character that a word may not pass over is cased. -/
def meetsCased (text : Text) : Bool :=
  match text.dropWhile fun c => caseIgnorableRanges.holds c.toNat with
  | [] => false
  | c :: _ => casedRanges.holds c.toNat

/-- The small form of one character outside a sigma's context. -/
def lowerPoint (c : CodePoint) : Text :=
  if c.toNat == 0x130 then "i\u0307"
  else match CaseRun.image? lowerRuns c.toNat with
    | some code => [.ofNat code]
    | none => [c]

/-- The small form of the text that follows `before`, which is reversed. -/
def lowerFrom (before : Text) : Text → Text
  | [] => []
  | c :: rest =>
    let small : Text :=
      if c == 'Σ' then
        if meetsCased before && !meetsCased rest then "ς" else "σ"
      else lowerPoint c
    small ++ lowerFrom (c :: before) rest

/-- The text in small letters. -/
def lower (text : Text) : Text := lowerFrom [] text

/-- The capital form of one character. -/
def upperPoint (c : CodePoint) : Text :=
  match upperExpansions.lookup c.toNat with
  | some codes => codes.map .ofNat
  | none => match CaseRun.image? upperRuns c.toNat with
    | some code => [.ofNat code]
    | none => [c]

/-- The text in capital letters. -/
def upper (text : Text) : Text := text.flatMap upperPoint

end AgentRuns.Text
