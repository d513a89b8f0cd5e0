import AgentRuns.Proofs.Text.Classes
import AgentRuns.Text.Utf8
import Mathlib.Algebra.Group.Nat.Defs
import Mathlib.Data.List.Basic

/-!
# Decoding piece by piece

The machine that decodes octets can be stopped between any two of them and goes on
from its state. A line feed completes no character. It ends a damaged part before it,
is told as itself and leaves the machine between characters, so what stands before it
has no influence on what stands behind it. A carriage return is told of the octet of
that number only, since every character of several octets lies beyond ASCII.

Every text is decoded from its octets, with a replacement character for each half of
a pair.
-/

namespace AgentRuns.Utf8

/-- What is told where the octets end: a character that was begun is damage. -/
def State.leftover : State → List Part
  | .between => []
  | .within taken .. => [.damage taken]

/-- The state behind octets, and what they complete. -/
def run : State → Bytes → State × List Part
  | state, [] => (state, [])
  | state, octet :: rest =>
    let next := step state octet
    let final := run next.1 rest
    (final.1, next.2 ++ final.2)

/-- At the end of the octets what was begun is left over, as damage or as nothing. -/
theorem decodeFrom_nil (state : State) : decodeFrom state [] = state.leftover := by
  cases state <;> rfl

/-- Decoding goes octet by octet. Each tells something, or nothing yet, and leads to a state
    for the rest. -/
theorem decodeFrom_cons (state : State) (octet : UInt8) (rest : Bytes) :
    decodeFrom state (octet :: rest) =
      (step state octet).2 ++ decodeFrom (step state octet).1 rest := by
  rw [decodeFrom]

/-- Decoding goes on behind any octets from the state that they lead to. Nothing else is
    carried over. -/
theorem decodeFrom_append (state : State) (before after : Bytes) :
    decodeFrom state (before ++ after) =
      (run state before).2 ++ decodeFrom (run state before).1 after := by
  induction before generalizing state with
  | nil => rfl
  | cons octet before inductionHypothesis =>
    rw [List.cons_append, decodeFrom_cons, inductionHypothesis, run, List.append_assoc]

/-- Inside a character only octets beyond ASCII are admitted, and the character that
    they complete lies beyond ASCII, too. -/
def State.Sound : State → Prop
  | .between => True
  | .within _ owed code low _ =>
    0x80 ≤ low ∧ 0 < owed ∧ 0x80 ≤ (code * 0x40 + (low - 0x80)) * 0x40 ^ (owed - 1)

/-- A lead octet is a character of its own, or damage, or begins a character. In the last case
    the state says how many octets are owed and which are admitted next. -/
theorem lead_cases (octet : UInt8) :
    lead octet = (.between, [.char (Char.ofNat octet.toNat)]) ∨
      lead octet = (.between, [.damage [octet]]) ∨
      ∃ owed code low high, lead octet = (.within [octet] owed code low high, []) ∧
        (State.within [octet] owed code low high).Sound := by
  generalize led : lead octet = outcome
  unfold lead at led
  dsimp only at led
  split_ifs at led <;> subst led
  case neg => exact Or.inr (Or.inl rfl)
  · exact Or.inl rfl
  · exact Or.inr (Or.inl rfl)
  all_goals
    refine Or.inr (Or.inr ⟨_, _, _, _, rfl, ?_⟩)
    simp only [State.Sound]
    omega

/-- The state behind a lead octet is sound. All that is admitted next goes on with a
    character. -/
theorem lead_sound (octet : UInt8) : (lead octet).1.Sound := by
  rcases lead_cases octet with character | damage | ⟨owed, code, low, high, begun, sound⟩
  · rw [character]
    trivial
  · rw [damage]
    trivial
  · rw [begun]
    exact sound

/-- The machine stays sound: with each octet the code grows by one factor, and one
    factor less is to come. -/
theorem step_sound (state : State) (octet : UInt8) (sound : state.Sound) :
    (step state octet).1.Sound := by
  cases state with
  | between => exact lead_sound octet
  | within taken owed code low high =>
    obtain ⟨beyond, owes, grows⟩ := sound
    simp only [step]
    split
    · rename_i admitted
      split
      · trivial
      · rename_i more
        refine ⟨Nat.le_refl _, by omega, ?_⟩
        obtain ⟨left, rfl⟩ : ∃ left, owed = left + 2 := ⟨owed - 2, by omega⟩
        have larger : code * 0x40 + (low - 0x80) ≤ code * 0x40 + (octet.toNat - 0x80) := by omega
        calc 0x80 ≤ (code * 0x40 + (low - 0x80)) * 0x40 ^ (left + 1) := grows
          _ ≤ (code * 0x40 + (octet.toNat - 0x80)) * 0x40 ^ (left + 1) :=
            Nat.mul_le_mul_right _ larger
          _ = ((code * 0x40 + (octet.toNat - 0x80)) * 0x40 + 0) * 0x40 ^ left := by
            rw [Nat.pow_succ', ← Nat.mul_assoc, Nat.add_zero]
    · exact lead_sound octet

/-- Octets lead from sound states to sound states, so every state that is met from the
    beginning is sound. -/
theorem run_sound (state : State) (bytes : Bytes) (sound : state.Sound) :
    (run state bytes).1.Sound := by
  induction bytes generalizing state with
  | nil => exact sound
  | cons octet bytes inductionHypothesis =>
    exact inductionHypothesis (step state octet).1 (step_sound state octet sound)

/-- A line feed ends what was begun and is told as itself. It is no octet that could go on
    with a character, and soundness says so. -/
theorem step_feed (state : State) (sound : state.Sound) :
    step state 0x0A = (.between, state.leftover ++ [.char '\n']) := by
  cases state with
  | between => rfl
  | within taken owed code low high =>
    have refused : ¬(low ≤ (0x0A : UInt8).toNat ∧ (0x0A : UInt8).toNat ≤ high) := by
      have number : (0x0A : UInt8).toNat = 0x0A := rfl
      have beyond : 0x80 ≤ low := sound.1
      omega
    rw [step, if_neg refused]
    rfl

/-- A line feed separates what is decoded before it from what is decoded behind it. Whatever
    was begun before it is over there, damage included. -/
theorem decodeFrom_feed (state : State) (before after : Bytes) (sound : state.Sound) :
    decodeFrom state (before ++ 0x0A :: after) =
      decodeFrom state before ++ (.char '\n' :: decode after) := by
  have whole := decodeFrom_append state before []
  rw [List.append_nil, decodeFrom_nil] at whole
  rw [decodeFrom_append, whole, decodeFrom_cons, step_feed _ (run_sound state before sound)]
  simp [decode]

/-- Line feeds separate what is decoded with damage shown. Marks of damage stand on the side
    that they come from. -/
theorem decodeLossy_feed (before after : Bytes) :
    decodeLossy (before ++ 0x0A :: after) =
      decodeLossy before ++ (.char '\n' :: decodeLossy after) := by
  simp only [decodeLossy, decode, decodeFrom_feed .between before after trivial, List.map_append,
    List.map_cons]

/-- What an octet tells or leaves over ends with a carriage return only if it is one. An octet
    always tells or leaves something, so there is a last part. -/
theorem lead_last (octet : UInt8) : ∃ front part,
    (lead octet).2 ++ (lead octet).1.leftover = front ++ [part] ∧
      (part = .char '\r' → octet = 0x0D) := by
  rcases lead_cases octet with character | damage | ⟨owed, code, low, high, begun, _⟩
  · rw [character]
    refine ⟨[], _, rfl, fun same => ?_⟩
    have number := CodePoint.number_of_ofNat octet.toNat '\r' (Part.char.inj same) (by decide)
    exact UInt8.toNat_inj.mp number
  · rw [damage]
    exact ⟨[], _, rfl, nofun⟩
  · rw [begun]
    exact ⟨[], _, rfl, nofun⟩

/-- What a step tells or leaves over ends with a carriage return only if its octet is one. No
    character of more than one octet is a carriage return. -/
theorem step_last (state : State) (octet : UInt8) (sound : state.Sound) : ∃ front part,
    (step state octet).2 ++ (step state octet).1.leftover = front ++ [part] ∧
      (part = .char '\r' → octet = 0x0D) := by
  cases state with
  | between => exact lead_last octet
  | within taken owed code low high =>
    obtain ⟨beyond, owes, grows⟩ := sound
    simp only [step]
    split
    · rename_i admitted
      split
      · rename_i last
        refine ⟨[], _, rfl, fun same => ?_⟩
        have number := CodePoint.number_of_ofNat _ '\r' (Part.char.inj same) (by decide)
        have small : code * 0x40 + (octet.toNat - 0x80) = 0x0D := number
        rw [last, Nat.sub_self, Nat.pow_zero] at grows
        omega
      · exact ⟨[], _, rfl, fun impossible => by cases impossible⟩
    · obtain ⟨front, part, told, isReturn⟩ := lead_last octet
      exact ⟨.damage taken :: front, part, congrArg (Part.damage taken :: ·) told, isReturn⟩

/-- A text ends with a carriage return only if its octets do. So whether a line ends with two
    characters is told from its octets. -/
theorem ends_of_decodeLossy (bytes : Bytes)
    (ends : (decodeLossy bytes).getLast? = some (.char '\r')) : bytes.getLast? = some 0x0D := by
  rcases List.eq_nil_or_concat bytes with rfl | ⟨before, octet, rfl⟩
  · cases ends
  · obtain ⟨front, part, told, isReturn⟩ :=
      step_last (run .between before).1 octet (run_sound .between before trivial)
    rw [List.concat_eq_append] at ends ⊢
    have whole : decode (before ++ [octet]) = ((run .between before).2 ++ front) ++ [part] := by
      rw [decode, decodeFrom_append, decodeFrom_cons, decodeFrom_nil, told, List.append_assoc]
    rw [decodeLossy, whole, List.map_append, List.map_singleton, List.getLast?_concat] at ends
    cases part with
    | char c =>
      have same : c = '\r' := CodePoint.char.inj (Option.some.inj ends)
      rw [isReturn (congrArg Part.char same), List.getLast?_concat]
    | damage octets => cases ends

/-- An octet that can go on with a character adds six bits. Its number is these bits above the
    first such octet. -/
theorem toNat_further (bits : Nat) (small : bits < 0x40) :
    (UInt8.ofNat (bits + 0x80)).toNat = bits + 0x80 := by
  rw [UInt8.toNat_ofNat']
  omega

/-- The last octet that is owed completes the character. The octet must be one of those that
    are admitted in this place. -/
theorem decodeFrom_last (taken rest : Bytes) (code low high bits : Nat) (small : bits < 0x40)
    (admitted : low ≤ bits + 0x80 ∧ bits + 0x80 ≤ high) :
    decodeFrom (.within taken 1 code low high) (UInt8.ofNat (bits + 0x80) :: rest) =
      .char (Char.ofNat (code * 0x40 + bits)) :: decodeFrom .between rest := by
  rw [decodeFrom_cons, step, toNat_further bits small, if_pos admitted, if_pos rfl,
    Nat.add_sub_cancel]
  rfl

/-- Any other octet that is owed brings the character on. Behind the second octet of a
    character every octet that goes on is admitted. -/
theorem decodeFrom_further (taken rest : Bytes) (owed code low high bits : Nat)
    (small : bits < 0x40) (admitted : low ≤ bits + 0x80 ∧ bits + 0x80 ≤ high) :
    decodeFrom (.within taken (owed + 2) code low high) (UInt8.ofNat (bits + 0x80) :: rest) =
      decodeFrom (.within (taken ++ [UInt8.ofNat (bits + 0x80)]) (owed + 1) (code * 0x40 + bits)
        0x80 0xBF) rest := by
  rw [decodeFrom_cons, step, toNat_further bits small, if_pos admitted, if_neg (by omega),
    Nat.add_sub_cancel]
  rfl

/-- A lead octet of two begins a character of five bits and six more. The two least of them
    would write ASCII again, and they are damage. -/
theorem lead_two (octet : UInt8) (least : 0xC2 ≤ octet.toNat) (most : octet.toNat ≤ 0xDF) :
    lead octet = (.within [octet] 1 (octet.toNat - 0xC0) 0x80 0xBF, []) := by
  unfold lead
  dsimp only
  rw [if_neg (by omega), if_neg (by omega), if_pos most]

/-- A lead octet of three. The next octet is such that the character is not written
    with fewer octets and is no half of a pair. -/
theorem lead_three (octet : UInt8) (least : 0xE0 ≤ octet.toNat) (most : octet.toNat ≤ 0xEF) :
    lead octet = (.within [octet] 2 (octet.toNat - 0xE0)
      (if octet.toNat = 0xE0 then 0xA0 else 0x80) (if octet.toNat = 0xED then 0x9F else 0xBF),
      []) := by
  unfold lead
  dsimp only
  rw [if_neg (by omega), if_neg (by omega), if_neg (by omega)]
  by_cases first : octet.toNat = 0xE0
  · simp [first]
  · by_cases last : octet.toNat = 0xED
    · simp [last]
    · simp [first, last, most]

/-- A lead octet of four. The next octet is such that the character is not written
    with fewer octets and lies within the code points. -/
theorem lead_four (octet : UInt8) (least : 0xF0 ≤ octet.toNat) (most : octet.toNat ≤ 0xF4) :
    lead octet = (.within [octet] 3 (octet.toNat - 0xF0)
      (if octet.toNat = 0xF0 then 0x90 else 0x80) (if octet.toNat = 0xF4 then 0x8F else 0xBF),
      []) := by
  unfold lead
  dsimp only
  rw [if_neg (by omega), if_neg (by omega), if_neg (by omega), if_neg (by omega),
    if_neg (by omega), if_neg (by omega)]
  by_cases first : octet.toNat = 0xF0
  · simp [first]
  · by_cases last : octet.toNat = 0xF4
    · simp [last]
    · simp [first, last]
      omega

/-- A character is decoded from its octets, whatever follows them. The cases are its lengths,
    from one octet to four. -/
theorem decodeFrom_utf8EncodeChar (c : Char) (rest : Bytes) :
    decodeFrom .between (String.utf8EncodeChar c ++ rest) =
      .char c :: decodeFrom .between rest := by
  have number : Char.ofNat c.val.toNat = c := Char.ofNat_toNat c
  have valid : c.val.toNat < 0xD800 ∨ 0xDFFF < c.val.toNat ∧ c.val.toNat < 0x110000 := c.valid
  unfold String.utf8EncodeChar
  dsimp only
  generalize c.val.toNat = code at number valid
  split
  · rename_i one
    have first : (UInt8.ofNat code).toNat = code := by rw [UInt8.toNat_ofNat']; omega
    rw [List.singleton_append, decodeFrom_cons, step, lead, first, if_pos one, number]
    rfl
  split
  · rename_i more two
    have first : (UInt8.ofNat (code / 64 % 32 + 192)).toNat = code / 64 + 192 := by
      rw [UInt8.toNat_ofNat']
      omega
    have whole : (code / 64 + 192 - 192) * 64 + code % 64 = code := by omega
    rw [List.cons_append, List.singleton_append, decodeFrom_cons, step,
      lead_two _ (by omega) (by omega), first,
      decodeFrom_last _ rest _ _ _ (code % 64) (by omega) (by omega), whole, number]
    rfl
  split
  · rename_i more two three
    have first : (UInt8.ofNat (code / 4096 % 16 + 224)).toNat = code / 4096 + 224 := by
      rw [UInt8.toNat_ofNat']
      omega
    have whole : ((code / 4096 + 224 - 224) * 64 + code / 64 % 64) * 64 + code % 64 = code := by
      omega
    rw [List.cons_append, List.cons_append, List.singleton_append, decodeFrom_cons, step,
      lead_three _ (by omega) (by omega), first,
      decodeFrom_further _ _ 0 _ _ _ (code / 64 % 64) (by omega) (by split <;> split <;> omega),
      decodeFrom_last _ rest _ _ _ (code % 64) (by omega) (by omega), whole, number]
    rfl
  · rename_i more two three
    have first : (UInt8.ofNat (code / 262144 % 8 + 240)).toNat = code / 262144 + 240 := by
      rw [UInt8.toNat_ofNat']
      omega
    have whole : (((code / 262144 + 240 - 240) * 64 + code / 4096 % 64) * 64 +
        code / 64 % 64) * 64 + code % 64 = code := by
      omega
    rw [List.cons_append, List.cons_append, List.cons_append, List.singleton_append,
      decodeFrom_cons, step, lead_four _ (by omega) (by omega), first,
      decodeFrom_further _ _ 1 _ _ _ (code / 4096 % 64) (by omega) (by split <;> split <;> omega),
      decodeFrom_further _ _ 0 _ _ _ (code / 64 % 64) (by omega) (by omega),
      decodeFrom_last _ rest _ _ _ (code % 64) (by omega) (by omega), whole, number]
    rfl

/-- A text is decoded from its octets. A half of a pair has no octets of its own and comes
    back as it was shown. -/
theorem decode_encode (text : Text) :
    decode (encode text) = text.map fun c => .char c.shown := by
  induction text with
  | nil => rfl
  | cons c text inductionHypothesis =>
    rw [encode, List.flatMap_cons, decode, decodeFrom_utf8EncodeChar, List.map_cons,
      ← inductionHypothesis]
    rfl

/-- A text is decoded from its octets with damage shown, because there is none. -/
theorem decodeLossy_encode (text : Text) :
    decodeLossy (encode text) = text.map fun c => .char c.shown := by
  rw [decodeLossy, decode_encode, List.map_map]
  rfl

end AgentRuns.Utf8
