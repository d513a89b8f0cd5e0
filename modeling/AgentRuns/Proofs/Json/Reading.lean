import AgentRuns.Proofs.Json.Limits
import AgentRuns.Proofs.Json.RoundTrip

/-!
# What reading yields

A value that was read is made of scalars within the limit, of texts that were read
as strings, and of lists and objects of such values. Whatever holds of every string
that can be read from a text therefore holds of every text in its value, the keys
of objects among them. What is left over is an end of the text, so the same is true
there.

Two strings are looked at. Of any string nothing holds, and what remains is the
limit of integers. A string from a text of characters alone has its pairs joined:
code units that make a pair were joined as they were read, and a character is no
half of one.
-/

namespace AgentRuns.Json

/-! ## Ends of a text -/

/-- What is left behind blanks is a suffix of the text. -/
theorem skipSpace_suffix (text : Text) : skipSpace text <:+ text :=
  List.dropWhile_suffix _

/-- What is left behind the leading digits is a suffix of the text. -/
theorem digits_suffix (text : Text) : (digits text).2 <:+ text := by
  rw [digits, List.span_eq_takeWhile_dropWhile]
  exact List.dropWhile_suffix _

/-- What is left behind a fraction is a suffix of the text. Where there is none that is the
    whole text. -/
theorem fraction_suffix (text : Text) : (fraction text).2 <:+ text := by
  unfold fraction
  split
  · rename_i rest
    dsimp only
    split
    · exact List.suffix_rfl
    · exact (digits_suffix rest).trans (List.suffix_cons _ _)
  · exact List.suffix_rfl

/-- What is left behind a sign is a suffix of the text, whether there was a sign or not. -/
theorem signed_suffix (text : Text) : (Text.signed text).2 <:+ text := by
  unfold Text.signed
  split
  · exact List.suffix_cons _ _
  · exact List.suffix_cons _ _
  · exact List.suffix_rfl

/-- What is left behind an exponent is a suffix of the text. Nothing is said of a text without
    one. -/
theorem exponent?_suffix (text rest : Text) (power : Int)
    (read : exponent? text = some (power, rest)) : rest <:+ text := by
  unfold exponent? at read
  split at read
  · rename_i mark behind
    dsimp only at read
    split at read
    · split at read
      · cases read
      · cases read
        exact ((digits_suffix _).trans (signed_suffix behind)).trans (List.suffix_cons _ _)
    · cases read
  · cases read

/-- What is left behind a number is a suffix of the text: digits, fraction and exponent leave
    suffixes of each other. -/
theorem unsigned?_suffix (negative : Bool) (text rest : Text) (value : Json)
    (read : unsigned? negative text = some (value, rest)) : rest <:+ text := by
  unfold unsigned? at read
  dsimp only at read
  split at read
  case' h_1 text behind => have whole : behind <:+ .char '0' :: behind := List.suffix_cons _ _
  case' h_2 => have whole := digits_suffix text
  all_goals
    have part := (fraction_suffix _).trans whole
    split at read
    · cases read
    · split at read
      · split at read
        · cases read
          exact part
        · cases read
      · rcases power : exponent? (fraction _).2 with _ | ⟨power, behindPower⟩
        · rw [power] at read
          cases read
          exact part
        · rw [power] at read
          cases read
          exact (exponent?_suffix _ _ _ power).trans part

/-- What is left behind a word or a number is a suffix of the text. -/
theorem scalar?_suffix (text rest : Text) (value : Json)
    (read : scalar? text = some (value, rest)) : rest <:+ text := by
  have word (spelling : Text) (other : Json)
      (spelled : (text.after? spelling).map (other, ·) = some (value, rest)) : rest <:+ text := by
    obtain ⟨after, found, pair⟩ := Option.map_eq_some_iff.mp spelled
    cases pair
    rw [Text.after?, List.isPrefixOf?_eq_some_iff_append_eq] at found
    exact ⟨spelling, found⟩
  unfold scalar? at read
  simp only [Option.or_eq_some_iff] at read
  rcases read with spelled | ⟨_, spelled | ⟨_, spelled | ⟨_, spelled | ⟨_, spelled | ⟨_, spelled |
    ⟨_, unsigned⟩⟩⟩⟩⟩⟩
  case inr.inr.inr.inr.inr.inr =>
    split at unsigned
    · exact (unsigned?_suffix true _ rest value unsigned).trans (List.suffix_cons _ _)
    · exact unsigned?_suffix false _ rest value unsigned
  all_goals exact word _ _ spelled

/-- An escape with a letter of its own stands for a character. So halves of pairs come from
    escapes with four digits alone. -/
theorem escaped?_whole (letter point : CodePoint) (named : escaped? letter = some point) :
    point.isHalf = false := by
  unfold escaped? at named
  split at named
  case h_9 => cases named
  all_goals
    cases named
    rfl

/-- A string leaves an end of the text over, and those of its parts that are no
    code units are characters that an escape stands for, or stand in the text. -/
theorem quoted?_parts (lenient : Bool) (text rest : Text) (pieces : List Piece)
    (read : quoted? lenient text = some (pieces, rest)) :
    rest <:+ text ∧ ∀ point, .point point ∈ pieces → point.isHalf = false ∨ point ∈ text := by
  fun_induction quoted? lenient text generalizing pieces with
  | case1 => cases read
  | case2 behind =>
    cases read
    exact ⟨List.suffix_cons _ _, fun point member => nomatch member⟩
  | case3 a b c d behind inductionHypothesis =>
    obtain ⟨unit, _, read⟩ := Option.bind_eq_some_iff.mp read
    obtain ⟨⟨others, after⟩, later, pair⟩ := Option.bind_eq_some_iff.mp read
    cases pair
    obtain ⟨ending, points⟩ := inductionHypothesis others later
    refine ⟨ending.trans ⟨['\\', 'u', a, b, c, d], rfl⟩, fun point member => ?_⟩
    have further : .point point ∈ others := by simpa using member
    exact (points point further).imp id fun inside => by simp [inside]
  | case4 c behind _ inductionHypothesis =>
    obtain ⟨letter, named, read⟩ := Option.bind_eq_some_iff.mp read
    obtain ⟨⟨others, after⟩, later, pair⟩ := Option.bind_eq_some_iff.mp read
    cases pair
    obtain ⟨ending, points⟩ := inductionHypothesis others later
    refine ⟨ending.trans ⟨['\\', c], rfl⟩, fun point member => ?_⟩
    rcases List.mem_cons.mp member with here | further
    · cases here
      exact Or.inl (escaped?_whole c _ named)
    · exact (points point further).imp id fun inside => by simp [inside]
  | case5 => cases read
  | case6 c behind _ _ _ _ _ inductionHypothesis =>
    obtain ⟨⟨others, after⟩, later, pair⟩ := Option.bind_eq_some_iff.mp read
    cases pair
    obtain ⟨ending, points⟩ := inductionHypothesis others later
    refine ⟨ending.trans (List.suffix_cons _ _), fun point member => ?_⟩
    rcases List.mem_cons.mp member with here | further
    · cases here
      exact Or.inr List.mem_cons_self
    · exact (points point further).imp id (List.mem_cons_of_mem c)

/-! ## Strings -/

/-- Only a number within the range of halves is read as a half, and it is the number of that
    half. -/
theorem ofNat_eq_half (code : Nat) (place : Fin 0x800)
    (half : CodePoint.ofNat code = .half place) : code = 0xD800 + place := by
  unfold CodePoint.ofNat at half
  split at half
  · rename_i inside
    rw [← CodePoint.half.inj half]
    exact (Nat.add_sub_cancel' inside.1).symm
  · cases half

/-- A code point that makes no pair with the next one stays as it is. It may be a half of a
    pair itself, as long as the other half does not follow. -/
theorem joined_cons (c : CodePoint) (rest : Text)
    (apart : ∀ high low others, c = .half high → rest = .half low :: others →
      ¬(high.val < 0x400 ∧ 0x400 ≤ low.val)) :
    Text.joined (c :: rest) = c :: Text.joined rest := by
  cases c with
  | char c => rw [Text.joined]; simp
  | half high =>
    rcases rest with _ | ⟨next, others⟩
    · rfl
    · cases next with
      | char next => rw [Text.joined]; simp
      | half low => rw [Text.joined, if_neg (apart high low others rfl rfl)]

/-- Only the code unit of a low half is read as a low half. What is written out is characters,
    and a pair that was joined is one as well. -/
theorem low_of_joinUnits (pieces : List Piece) (low : Fin 0x800) (others : Text)
    (whole : ∀ point, .point point ∈ pieces → point.isHalf = false)
    (starts : joinUnits pieces = .half low :: others) (isLow : 0x400 ≤ low.val) :
    ¬NoLowHalf pieces := by
  have named (unit : Nat) (same : CodePoint.ofNat unit = .half low) : isLowHalf unit = true := by
    have number := ofNat_eq_half unit low same
    simp only [isLowHalf, Bool.and_eq_true, decide_eq_true_eq]
    omega
  fun_cases joinUnits pieces with
  | case1 => cases starts
  | case2 point rest =>
    rw [joinUnits] at starts
    have noHalf := whole point List.mem_cons_self
    rw [(List.cons.inj starts).1] at noHalf
    cases noHalf
  | case3 high low rest paired =>
    rw [joinUnits, if_pos paired] at starts
    have number := ofNat_eq_half _ _ (List.cons.inj starts).1
    omega
  | case4 high low rest unpaired =>
    rw [joinUnits, if_neg unpaired] at starts
    simp [NoLowHalf, named high (List.cons.inj starts).1]
  | case5 unit rest alone =>
    rw [joinUnits] at starts
    · simp [NoLowHalf, named unit (List.cons.inj starts).1]
    · exact alone

/-- The parts of a string are joined as they are read. Every pair of code units is joined
    then, so there is none left to join behind. -/
theorem joined_joinUnits (pieces : List Piece)
    (whole : ∀ point, .point point ∈ pieces → point.isHalf = false) :
    (joinUnits pieces).joined = joinUnits pieces := by
  fun_induction joinUnits pieces with
  | case1 => rfl
  | case2 point rest inductionHypothesis =>
    have others := inductionHypothesis fun other member =>
      whole other (List.mem_cons_of_mem _ member)
    rw [joined_cons, others]
    rintro high low behind rfl
    exact nomatch whole (.half high) List.mem_cons_self
  | case3 high low rest paired inductionHypothesis =>
    have others := inductionHypothesis fun other member =>
      whole other (List.mem_cons_of_mem _ (List.mem_cons_of_mem _ member))
    rw [joined_cons, others]
    intro half _ _ same
    have number := ofNat_eq_half _ half same
    omega
  | case4 high low rest unpaired inductionHypothesis =>
    have behind : ∀ point, .point point ∈ .unit low :: rest → point.isHalf = false :=
      fun other member => whole other (List.mem_cons_of_mem _ member)
    rw [joined_cons, inductionHypothesis behind]
    rintro first second others same starts ⟨isHigh, isLow⟩
    have number := ofNat_eq_half high first same
    have notLow := low_of_joinUnits _ second others behind starts isLow
    simp only [NoLowHalf, Bool.not_eq_false] at notLow
    simp only [isHighHalf, notLow, Bool.and_true, Bool.and_eq_true, decide_eq_true_eq] at unpaired
    omega
  | case5 unit rest alone inductionHypothesis =>
    have behind : ∀ point, .point point ∈ rest → point.isHalf = false :=
      fun other member => whole other (List.mem_cons_of_mem _ member)
    rw [joined_cons, inductionHypothesis behind]
    rintro first second others same starts ⟨isHigh, isLow⟩
    have notLow := low_of_joinUnits rest second others behind starts isLow
    rcases rest with _ | ⟨piece, rest⟩
    · exact notLow trivial
    · cases piece with
      | point => exact notLow trivial
      | unit low => exact alone low rest rfl

/-! ## Values -/

/-- A value made of texts of one kind, the keys of objects among them, and of
    scalars within the limit. -/
inductive Consists (held : Text → Prop) : Json → Prop
  | scalar (json : Json) (scalar : json.Scalar) : Consists held json
  | string (content : Text) (holds : held content) : Consists held (.string content)
  | list (items : List Json) (all : ∀ item ∈ items, Consists held item) :
    Consists held (.list items)
  | object (fields : List (Text × Json)) (keys : ∀ field ∈ fields, held field.1)
    (values : ∀ field ∈ fields, Consists held field.2) : Consists held (.object fields)

/-- An integer in such a value can be written, at whatever depth it stands. -/
theorem Consists.writable {held : Text → Prop} {json : Json} (consists : json.Consists held) :
    json.Writable := by
  rintro number rfl
  cases consists with
  | scalar _ scalar => exact scalar

/-- The values under the keys of such a value are such values. Of a key that is given twice it
    is the last value that is found, and it is one of them. -/
theorem Consists.field {held : Text → Prop} {json value : Json} (consists : json.Consists held)
    (key : Text) (found : json.field? key = some value) : value.Consists held := by
  cases consists with
  | scalar json scalar =>
    cases json with
    | object => exact scalar.elim
    | _ => cases found
  | string => cases found
  | list => cases found
  | object fields keys values =>
    obtain ⟨before, behind, rfl, _⟩ := List.lookup_eq_some_iff.mp found
    exact values (key, value) (List.mem_append_right before List.mem_cons_self)

/-- A reader that yields values of one kind from the texts of an alphabet and leaves
    an end of the text over. -/
def Yields {α : Type} (alphabet : CodePoint → Prop) (kind : α → Prop)
    (reader : Text → Except Refusal (α × Text)) : Prop :=
  ∀ text value rest, (∀ c ∈ text, alphabet c) → reader text = .ok (value, rest) →
    kind value ∧ rest <:+ text

/-- What is not malformed was read. This is how the readers of strings and numbers, which know
    no room, stand beside those of lists and objects. -/
theorem orMalformed_eq_ok {α : Type} (read : Option α) (value : α) :
    orMalformed read = .ok value ↔ read = some value := by
  cases read <;> simp [orMalformed]

/-- The kind of a list's items. -/
def AllConsist (held : Text → Prop) (items : List Json) : Prop :=
  ∀ item ∈ items, Consists held item

/-- The kind of an object's fields. -/
def FieldsConsist (held : Text → Prop) (fields : List (Text × Json)) : Prop :=
  ∀ field ∈ fields, held field.1 ∧ Consists held field.2

section Reading

variable {alphabet : CodePoint → Prop} {held : Text → Prop} {lenient : Bool}
  (strings : Yields alphabet held fun text => orMalformed (string? lenient text))
include strings

/-- One value, whose items or fields are read with a smaller bound and in less room. Whatever
    the room, a value that is read is made of strings from the text. -/
theorem readValue_yields (bound : Nat)
    (items : ∀ room, Yields alphabet (AllConsist held) (readItems lenient bound room))
    (fields : ∀ room, Yields alphabet (FieldsConsist held) (readFields lenient bound room))
    (room : Nat) : Yields alphabet (Consists held) (readValue lenient (bound + 1) room) := by
  intro text value rest plain read
  have inside (inner : Text) (suffix : inner <:+ text) : ∀ c ∈ inner, alphabet c :=
    fun c member => plain c (suffix.mem member)
  unfold readValue at read
  split at read
  case h_1 behind =>
    have opened : behind <:+ .char '"' :: behind := List.suffix_cons _ _
    obtain ⟨⟨content, after⟩, contentRead, pair⟩ := ok_of_map _ _ _ read
    cases pair
    obtain ⟨holds, ending⟩ := strings behind content rest (inside behind opened) contentRead
    exact ⟨.string content holds, ending.trans opened⟩
  case h_2 behind =>
    have opened := (skipSpace_suffix behind).trans (List.suffix_cons (.char '[') behind)
    obtain ⟨less, _, read⟩ := ok_of_bind _ _ _ read
    split at read
    case h_1 after closed =>
      cases read
      rw [closed] at opened
      exact ⟨.list [] (List.forall_mem_nil _), (List.suffix_cons _ _).trans opened⟩
    case h_2 =>
      obtain ⟨⟨given, after⟩, itemsRead, pair⟩ := ok_of_map _ _ _ read
      cases pair
      obtain ⟨all, ending⟩ := items less _ given rest (inside _ opened) itemsRead
      exact ⟨.list given all, ending.trans opened⟩
  case h_3 behind =>
    have opened := (skipSpace_suffix behind).trans (List.suffix_cons (.char '{') behind)
    obtain ⟨less, _, read⟩ := ok_of_bind _ _ _ read
    split at read
    case h_1 after closed =>
      cases read
      rw [closed] at opened
      exact ⟨.object [] (List.forall_mem_nil _) (List.forall_mem_nil _),
        (List.suffix_cons _ _).trans opened⟩
    case h_2 =>
      obtain ⟨⟨given, after⟩, fieldsRead, pair⟩ := ok_of_map _ _ _ read
      cases pair
      obtain ⟨all, ending⟩ := fields less _ given rest (inside _ opened) fieldsRead
      refine ⟨.object _ (fun field member => ?_) (fun field member => ?_), ending.trans opened⟩
      · exact (all field (Table.mem_of_ofEntries given field member)).1
      · exact (all field (Table.mem_of_ofEntries given field member)).2
  case h_4 =>
    have scalar := (orMalformed_eq_ok _ _).mp read
    exact ⟨.scalar value (scalar?_scalar text rest value scalar),
      scalar?_suffix text rest value scalar⟩

omit strings in
/-- The items of a list, each of them read with a smaller bound. Each leaves a suffix of the
    text, so the next one is read from the same alphabet. -/
theorem readItems_yields (bound room : Nat)
    (values : Yields alphabet (Consists held) (readValue lenient bound room))
    (items : Yields alphabet (AllConsist held) (readItems lenient bound room)) :
    Yields alphabet (AllConsist held) (readItems lenient (bound + 1) room) := by
  intro text given rest plain read
  have inside (inner : Text) (suffix : inner <:+ text) : ∀ c ∈ inner, alphabet c :=
    fun c member => plain c (suffix.mem member)
  unfold readItems at read
  obtain ⟨⟨item, behind⟩, itemRead, read⟩ := ok_of_bind _ _ _ read
  obtain ⟨consists, afterItem⟩ := values text item behind plain itemRead
  have behindItem := (skipSpace_suffix behind).trans afterItem
  dsimp only at read
  split at read
  case h_1 more comma =>
    obtain ⟨⟨others, after⟩, othersRead, pair⟩ := ok_of_bind _ _ _ read
    cases pair
    rw [comma] at behindItem
    have next := ((skipSpace_suffix more).trans (List.suffix_cons _ more)).trans behindItem
    obtain ⟨all, ending⟩ := items _ others _ (inside _ next) othersRead
    exact ⟨List.forall_mem_cons.mpr ⟨consists, all⟩, ending.trans next⟩
  case h_2 after closed =>
    cases read
    rw [closed] at behindItem
    refine ⟨fun other member => ?_, (List.suffix_cons _ _).trans behindItem⟩
    rwa [List.mem_singleton.mp member]
  case h_3 => cases read

/-- The fields of an object, each of them read with a smaller bound. Keys are strings of the
    text too, and of one key the last value is held. -/
theorem readFields_yields (bound room : Nat)
    (values : Yields alphabet (Consists held) (readValue lenient bound room))
    (fields : Yields alphabet (FieldsConsist held) (readFields lenient bound room)) :
    Yields alphabet (FieldsConsist held) (readFields lenient (bound + 1) room) := by
  intro text given rest plain read
  have inside (inner : Text) (suffix : inner <:+ text) : ∀ c ∈ inner, alphabet c :=
    fun c member => plain c (suffix.mem member)
  unfold readFields at read
  split at read
  case h_2 => cases read
  case h_1 quoted =>
    have opened : quoted <:+ .char '"' :: quoted := List.suffix_cons _ _
    obtain ⟨⟨key, behindKey⟩, keyRead, read⟩ := ok_of_bind _ _ _ read
    obtain ⟨holds, afterKey⟩ := strings quoted key behindKey (inside _ opened) keyRead
    have colonAt := ((skipSpace_suffix behindKey).trans afterKey).trans opened
    dsimp only at read
    split at read
    case h_2 => cases read
    case h_1 behindColon colon =>
      rw [colon] at colonAt
      have valueAt := ((skipSpace_suffix behindColon).trans (List.suffix_cons _ _)).trans colonAt
      obtain ⟨⟨value, behind⟩, valueRead, read⟩ := ok_of_bind _ _ _ read
      obtain ⟨consists, afterValue⟩ := values _ value behind (inside _ valueAt) valueRead
      have behindValue := ((skipSpace_suffix behind).trans afterValue).trans valueAt
      dsimp only at read
      split at read
      case h_1 more comma =>
        obtain ⟨⟨others, after⟩, othersRead, pair⟩ := ok_of_bind _ _ _ read
        cases pair
        rw [comma] at behindValue
        have next := ((skipSpace_suffix more).trans (List.suffix_cons _ more)).trans behindValue
        obtain ⟨all, ending⟩ := fields _ others _ (inside _ next) othersRead
        exact ⟨List.forall_mem_cons.mpr ⟨⟨holds, consists⟩, all⟩, ending.trans next⟩
      case h_2 after closed =>
        cases read
        rw [closed] at behindValue
        refine ⟨fun other member => ?_, (List.suffix_cons _ _).trans behindValue⟩
        rw [List.mem_singleton.mp member]
        exact ⟨holds, consists⟩
      case h_3 => cases read

/-- Values, items and fields that are read within any bound and in any room. The induction is
    on the bound and goes for the three of them at a time. -/
theorem bounded_yields (bound : Nat) :
    (∀ room, Yields alphabet (Consists held) (readValue lenient bound room)) ∧
      (∀ room, Yields alphabet (AllConsist held) (readItems lenient bound room)) ∧
      ∀ room, Yields alphabet (FieldsConsist held) (readFields lenient bound room) := by
  induction bound with
  | zero =>
    refine ⟨?_, ?_, ?_⟩
    all_goals
      intro room text value rest plain read
      cases read
  | succ bound inductionHypothesis =>
    obtain ⟨values, items, fields⟩ := inductionHypothesis
    exact ⟨readValue_yields strings bound items fields,
      fun room => readItems_yields bound room (values room) (items room),
      fun room => readFields_yields strings bound room (values room) (fields room)⟩

/-- The value of a whole text is made of strings that the text writes. Nothing is asked of the
    room, since nothing is said of a text that is refused. -/
theorem read_consists (room : Nat) (text : Text) (json : Json) (plain : ∀ c ∈ text, alphabet c)
    (read : Json.read lenient room text = .ok json) : json.Consists held := by
  obtain ⟨⟨value, rest⟩, valueRead, ended⟩ := ok_of_bind _ _ _ read
  dsimp only at ended
  split at ended
  · cases ended
    have inside : ∀ c ∈ skipSpace text, alphabet c := fun c member =>
      plain c ((skipSpace_suffix text).mem member)
    exact ((bounded_yields strings _).1 room _ json rest inside valueRead).1
  · cases ended

end Reading

/-- Any string may be read. This is the law of all texts, where nothing is known of the
    alphabet. -/
theorem string?_yields (lenient : Bool) :
    Yields (fun _ => True) (fun _ => True) fun text => orMalformed (string? lenient text) := by
  intro text content rest _ read
  obtain ⟨⟨pieces, after⟩, piecesRead, pair⟩ :=
    Option.map_eq_some_iff.mp ((orMalformed_eq_ok _ _).mp read)
  cases pair
  exact ⟨trivial, (quoted?_parts lenient text rest pieces piecesRead).1⟩

/-- An integer under a key of a value that was read can be written. It was read from digits
    within the limit. -/
theorem field?_writable (room : Nat) (text : Text) (json value : Json) (key : Text)
    (read : readLenient room text = .ok json) (found : json.field? key = some value) :
    value.Writable :=
  have consists := read_consists (string?_yields true) room text json (fun _ _ => trivial) read
  (consists.field key found).writable

/-- A string that is read from characters has its pairs joined. Halves come from escapes alone
    there, and those are joined as they are read. -/
theorem string?_joined (lenient : Bool) :
    Yields (fun c => c.isHalf = false) (fun content => content.joined = content)
      fun text => orMalformed (string? lenient text) := by
  intro text content rest whole read
  obtain ⟨⟨pieces, after⟩, piecesRead, pair⟩ :=
    Option.map_eq_some_iff.mp ((orMalformed_eq_ok _ _).mp read)
  cases pair
  obtain ⟨ending, points⟩ := quoted?_parts lenient text rest pieces piecesRead
  refine ⟨joined_joinUnits pieces fun point member => ?_, ending⟩
  exact (points point member).elim id (whole point)

/-- A value that a text of characters writes, as it is read: its texts have their
    pairs joined, and its integers are within the limit. -/
abbrev Settled : Json → Prop := Consists fun content => content.joined = content

/-- A value that is read from characters is settled: its pairs are joined, and its numbers can
    be written. How deep it nests and how much room there was makes no difference. -/
theorem read_settled (lenient : Bool) (room : Nat) (text : Text) (json : Json)
    (whole : ∀ c ∈ text, c.isHalf = false) (read : Json.read lenient room text = .ok json) :
    json.Settled :=
  read_consists (string?_joined lenient) room text json whole read

/-- Nothing is left to join in a settled value. Its strings and keys have their pairs joined
    already, at every depth. -/
theorem Settled.joined_eq {json : Json} (settled : json.Settled) : json.joined = json := by
  induction settled with
  | scalar json scalar => cases json <;> first | rfl | exact scalar.elim
  | string content holds => rw [joined, holds]
  | list items all inductionHypothesis =>
    rw [joined, joinedItems_eq]
    exact congrArg list ((List.map_congr_left inductionHypothesis).trans (List.map_id items))
  | object fields keys values inductionHypothesis =>
    rw [joined, joinedFields_eq]
    refine congrArg object ((List.map_congr_left fun field member => ?_).trans
      (List.map_id fields))
    rw [keys field member, inductionHypothesis field member]
    rfl

end AgentRuns.Json
