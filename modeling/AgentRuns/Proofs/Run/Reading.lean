import AgentRuns.Proofs.Json.Reading
import AgentRuns.Proofs.Run.Amending

/-!
# Runs that were read

What is kept of a valid value is the value itself, for all fields of a run but two:
the place in a chain may be given as anything that counts as an integer, and of
feedback only its own fields are kept. A run that is checked out of a value that was
read is therefore settled like the value: nothing is left to join in its texts, and
its place in its chain can be written.
-/

namespace AgentRuns

/-! ## Checks that keep what they check -/

namespace Check

variable {α : Type}

/-- What a check keeps is written as the value that was checked. -/
def Keeps (check : Json → Checked α) (write : α → Json) : Prop :=
  ∀ value given, (check value).value? = some given → write given = value

/-- A text is kept as the text that it is. Nothing is trimmed, and an empty one is kept as
    well. -/
theorem keeps_text : Keeps text .string := by
  intro value given valid
  cases value with
  | string content =>
    cases valid
    rfl
  | _ => cases valid

/-- A choice is kept by its name. It is asked that the name of a choice is the word it was
    chosen by, so no two words may stand for one choice. -/
theorem keeps_choice (ofName? : Text → Option α) (name : α → Text)
    (named : ∀ content choice, ofName? content = some choice → name choice = content) :
    Keeps (choice ofName?) fun given => .string (name given) := by
  intro value given valid
  cases value with
  | string content =>
    rw [choice] at valid
    split at valid
    · rename_i found
      cases valid
      exact congrArg Json.string (named content _ found)
    · cases valid
  | _ => cases valid

/-- What may be null is null, or is checked. There is no third way to pass the check. -/
theorem nullable_cases (check : Json → Checked α) (value : Json) (given : Option α)
    (valid : (nullable check value).value? = some given) :
    (given = none ∧ value = .null) ∨
      ∃ kept, given = some kept ∧ (check value).value? = some kept := by
  have other (checked : (some <$> check value).value? = some given) :
      ∃ kept, given = some kept ∧ (check value).value? = some kept := by
    cases outcome : check value with
    | invalid issues =>
      rw [outcome] at checked
      cases checked
    | valid kept =>
      rw [outcome] at checked
      cases checked
      exact ⟨kept, rfl, rfl⟩
  cases value with
  | null =>
    cases valid
    exact Or.inl ⟨rfl, rfl⟩
  | _ => exact Or.inr (other valid)

/-- Null is kept beside whatever else is. The check below it needs to keep its own values
    only. -/
theorem keeps_nullable (check : Json → Checked α) (write : α → Json) (keeps : Keeps check write) :
    Keeps (nullable check) fun given => (given.map write).getD .null := by
  intro value given valid
  rcases nullable_cases check value given valid with ⟨rfl, rfl⟩ | ⟨kept, rfl, checked⟩
  · rfl
  · exact keeps value kept checked

/-- An optional text is written as the text or as null. This is the form in which the laws for
    values that may be null meet it. -/
theorem ofText?_eq (content : Option Text) :
    Json.ofText? content = (content.map Json.string).getD .null := by
  cases content <;> rfl

/-- An optional text is kept, null as null and a text as itself. -/
theorem keeps_optionalText : Keeps optionalText .ofText? := by
  intro value given valid
  rw [ofText?_eq]
  exact keeps_nullable text .string keeps_text value given valid

/-- Texts are kept, whatever their positions. The position an item is counted from goes into
    complaints alone. -/
theorem texts_of_itemsFrom (position : Nat) (items : List Json) (contents : List Text)
    (valid : (itemsFrom text position items).value? = some contents) :
    contents.map .string = items := by
  induction items generalizing position contents with
  | nil =>
    cases valid
    rfl
  | cons item items inductionHypothesis =>
    have pair := Checked.value?_seq_bind (List.cons <$> (text item).under (Text.ofNat position))
      (itemsFrom text (position + 1) items) some
    rw [Option.bind_fun_some, Checked.value?_map_bind, Checked.value?_under] at pair
    rw [itemsFrom, pair] at valid
    obtain ⟨content, first, rest⟩ := Option.bind_eq_some_iff.mp valid
    obtain ⟨others, behind, whole⟩ := Option.bind_eq_some_iff.mp rest
    cases whole
    rw [List.map_cons, keeps_text item content first, inductionHypothesis _ others behind]

/-- A list of texts is kept item by item, in its order. An empty list is kept as one. -/
theorem keeps_texts : Keeps (list text) fun contents => .list (contents.map .string) := by
  intro value given valid
  cases value with
  | list items => exact congrArg Json.list (texts_of_itemsFrom 0 items given valid)
  | _ => cases valid

end Check

namespace Slot

variable {α : Type}

/-- What is kept of a value for the field is the value itself. -/
def Exact (slot : Slot) : Prop := ∀ value kept, slot.keep? value = some kept → kept = value

/-- A field that must be given keeps its value if its check does. There is no other value that
    could stand for it. -/
theorem exact_required (key : Text) (check : Json → Checked α) (write : α → Json)
    (keeps : Check.Keeps check write) : (required key check write).Exact := by
  intro value kept given
  obtain ⟨checked, valid, rfl⟩ := Option.map_eq_some_iff.mp given
  exact keeps value checked valid

/-- A field that may be left out keeps its value if its check does. What stands for it where
    it is left out plays no part, since nothing is asked of a field that is not given. -/
theorem exact_optional (key : Text) (check : Json → Checked α) (otherwise : α) (write : α → Json)
    (keeps : Check.Keeps check write) : (optional key check otherwise write).Exact := by
  intro value kept given
  obtain ⟨checked, valid, rfl⟩ := Option.map_eq_some_iff.mp given
  exact keeps value checked valid

end Slot

namespace Run

/-- The fields whose values may be kept in another form. -/
def convertedKeys : List Text := ["feedback", "chainIndex"]

/-- A status is kept by its name, one name for each status. -/
theorem keeps_status :
    Check.Keeps (Check.choice RunStatus.ofName?) fun status => .string status.name :=
  Check.keeps_choice _ _ fun content _ found => by simpa using List.find?_some found

/-- A phase is kept by its name, and a run without a phase has null. -/
theorem keeps_phase : Check.Keeps (Check.nullable (Check.choice RunPhase.ofName?))
    fun phase => .ofText? (phase.map RunPhase.name) := by
  intro value given valid
  have named := Check.keeps_choice RunPhase.ofName? RunPhase.name fun content _ found => by
    simpa using List.find?_some found
  dsimp only
  rw [Check.ofText?_eq, Option.map_map]
  exact Check.keeps_nullable _ _ named value given valid

/-- Every other field keeps the value that is given for it. The two that take another form are
    named by their keys, and each of the rest is met by the law of its check. -/
theorem slots_exact : ∀ slot ∈ slots, slot.key ∉ convertedKeys → slot.Exact := by
  have required (key : Text) := Slot.exact_required key _ _ Check.keeps_text
  have optional (key : Text) := Slot.exact_optional key _ none _ Check.keeps_optionalText
  have status := Slot.exact_optional "status" _ .queued _ keeps_status
  have phase := Slot.exact_optional "phase" _ (some .queued) _ keeps_phase
  have files := Slot.exact_optional "changedFiles" _ [] _ Check.keeps_texts
  simp only [slots, List.forall_mem_cons, List.not_mem_nil, false_implies, implies_true, and_true]
  refine ⟨?_, ?_, ?_, ?_, ?_, ?_, ?_, ?_, ?_, ?_, ?_, ?_, ?_, ?_, ?_, ?_, ?_, ?_, ?_, ?_, ?_, ?_,
    ?_, ?_, ?_⟩
  all_goals intro exactly
  case refine_2 => exact status
  case refine_3 => exact phase
  case refine_17 => exact files
  case refine_19 | refine_23 => exact absurd (by decide) exactly
  all_goals first | exact required _ | exact optional _

end Run

/-! ## What is kept of what was read -/

namespace Json

/-- Null has nothing to join and no number to write. -/
theorem settled_null : Settled .null := .scalar .null trivial

/-- A name of the library is settled, since a string is made of characters. -/
theorem settled_name (name : String) : Settled (.string name) :=
  .string name (Text.joined_ofString name)

end Json

namespace Text

/-- An integer in a document's text is within the limit. Reading it has counted its digits
    already, so writing it cannot fail. -/
theorem plainInt?_scalar (text : Text) (number : Int) (read : plainInt? text = some number) :
    (Json.int number).Scalar := by
  unfold plainInt? at read
  dsimp only at read
  split at read
  · cases read
  · rename_i accepted
    simp only [Bool.or_eq_true, Bool.not_eq_true', decide_eq_true_eq, not_or, not_lt,
      Bool.not_eq_false, List.all_eq_true] at accepted
    cases read
    exact Json.scalar_of_digits _ _ accepted.1.1.2 accepted.2

end Text

namespace Check

/-- An integer that is kept of a value that was read is within the limit. It may come from an
    integer, from a float without a fraction or from a text, and each of them was bounded when
    it was read. -/
theorem integer_scalar (value : Json) (number : Int) (settled : value.Settled)
    (valid : (integer value).value? = some number) : (Json.int number).Scalar := by
  cases value with
  | int given =>
    cases valid
    cases settled with
    | scalar _ scalar => exact scalar
  | bool given =>
    cases valid
    cases given with
    | false => exact (by decide : (Text.ofNat 0).length ≤ maxDigits)
    | true => exact (by decide : (Text.ofNat 1).length ≤ maxDigits)
  | float given =>
    rw [integer, integerOfNumber] at valid
    split at valid
    · cases valid
    · split at valid
      · split at valid
        · rename_i inside
          cases valid
          exact Text.length_ofNat_of_le _ 63 maxDigits (Nat.le_of_lt inside) (by decide)
        · cases valid
      · cases valid
  | string text =>
    rw [integer] at valid
    split at valid
    · cases valid
    · split at valid
      · rename_i read
        cases valid
        obtain ⟨body, _, plain⟩ := Option.bind_eq_some_iff.mp read
        exact Text.plainInt?_scalar _ number plain
      · cases valid
  | _ => cases valid

end Check

namespace Slot

/-- What is kept for the field of a settled value is settled. -/
structure Settles (slot : Slot) : Prop where
  kept : ∀ value kept, value.Settled → slot.keep? value = some kept → kept.Settled
  absent : ∀ value, slot.absent? = some value → value.Settled

/-- A field that keeps its value settles: the value that is kept is the settled one that was
    given, or the one that stands for it where none was. -/
theorem Exact.settles {slot : Slot} (exactly : slot.Exact)
    (absent : ∀ value, slot.absent? = some value → value.Settled) : slot.Settles where
  kept value kept settled given := by
    rw [exactly value kept given]
    exact settled
  absent := absent

/-- Fields that settle are settled when they are taken from a settled object. No field's key
    has pairs to join, so the object that is made of them is settled as well. -/
theorem settled_of_takeAll? (slots : List Slot) (fields taken : Table Json)
    (settled : (Json.object fields).Settled) (settles : ∀ slot ∈ slots, slot.Settles)
    (keys : ∀ slot ∈ slots, slot.key.joined = slot.key)
    (all : takeAll? slots fields = some taken) : (Json.object taken).Settled := by
  induction slots generalizing taken with
  | nil =>
    cases all
    exact .object [] (List.forall_mem_nil _) (List.forall_mem_nil _)
  | cons slot slots inductionHypothesis =>
    obtain ⟨first, others⟩ := List.forall_mem_cons.mp settles
    obtain ⟨key, otherKeys⟩ := List.forall_mem_cons.mp keys
    have step := takeAll?_cons slot slots fields some
    rw [Option.bind_fun_some, all] at step
    obtain ⟨value, valueTaken, step⟩ := Option.bind_eq_some_iff.mp step.symm
    obtain ⟨behind, behindTaken, pair⟩ := Option.bind_eq_some_iff.mp step
    cases pair
    have valueSettled : value.Settled := by
      rw [take?] at valueTaken
      split at valueTaken
      · rename_i given found
        exact first.kept given value (settled.field slot.key found) valueTaken
      · exact first.absent value valueTaken
    have rest := inductionHypothesis behind others otherKeys behindTaken
    cases rest with
    | scalar _ scalar => exact scalar.elim
    | object _ restKeys restValues =>
      exact .object _ (List.forall_mem_cons.mpr ⟨key, restKeys⟩)
        (List.forall_mem_cons.mpr ⟨valueSettled, restValues⟩)

end Slot

namespace Feedback

/-- The fields of feedback. -/
def slots : List Slot :=
  [.required "rating" (Check.choice Rating.ofName?) fun rating => .string rating.name,
    .optional "note" Check.optionalText none .ofText?,
    .optional "by" Check.optionalText none .ofText?,
    .optional "at" Check.text [] .string]

/-- Feedback passes the check if all its fields are taken, and then it has them as they
    were taken. -/
theorem value?_checkFields (fields : Table Json) :
    (checkFields fields).value?.map toJson = (Slot.takeAll? slots fields).map .object := by
  rw [Option.map_eq_bind, Option.map_eq_bind, checkFields]
  iterate 3 rw [Checked.value?_seq_bind]
  rw [Checked.value?_map_bind, slots]
  iterate 4
    first | rw [Slot.takeAll?_required] | rw [Slot.takeAll?_optional]
    refine congrArg (Option.bind _) (funext fun _ => ?_)
  rfl

/-- Each field of feedback settles, by the law of its check and by what stands for it where it
    is left out. -/
theorem slots_settle : ∀ slot ∈ slots, slot.Settles := by
  have rating := Check.keeps_choice Rating.ofName? Rating.name fun content _ found => by
    simpa using List.find?_some found
  simp only [slots, List.forall_mem_cons, List.not_mem_nil, false_implies, implies_true, and_true]
  refine ⟨(Slot.exact_required _ _ _ rating).settles ?_,
    (Slot.exact_optional _ _ _ _ Check.keeps_optionalText).settles ?_,
    (Slot.exact_optional _ _ _ _ Check.keeps_optionalText).settles ?_,
    (Slot.exact_optional _ _ _ _ Check.keeps_text).settles ?_⟩
  all_goals
    rintro _ ⟨⟩
  · exact Json.settled_null
  · exact Json.settled_null
  · exact Json.settled_name ""

/-- The keys of feedback are the library's own and have nothing to join. -/
theorem slots_keys : ∀ slot ∈ slots, slot.key.joined = slot.key := by
  simp only [slots, Slot.required, Slot.optional, List.forall_mem_cons, Text.joined_ofString,
    List.not_mem_nil, false_implies, implies_true, and_true]

/-- Feedback that was read is settled. Whatever the value held besides its fields was dropped
    by the check. -/
theorem settled_of_check (value : Json) (feedback : Feedback) (settled : value.Settled)
    (valid : (check value).value? = some feedback) : feedback.toJson.Settled := by
  cases value with
  | object fields =>
    have taken := value?_checkFields fields
    rw [show (checkFields fields).value? = some feedback from valid] at taken
    obtain ⟨kept, all, same⟩ := Option.map_eq_some_iff.mp taken.symm
    rw [← same]
    exact Slot.settled_of_takeAll? slots fields kept settled slots_settle slots_keys all
  | _ => cases valid

end Feedback

namespace Run

/-- A field in another form settles as its value does. All others keep their values and settle
    because these were settled before. -/
theorem slots_settle : ∀ slot ∈ slots, slot.Settles := by
  have required (key : Text) : (Slot.required key Check.text .string).Settles :=
    (Slot.exact_required key _ _ Check.keeps_text).settles (by rintro _ ⟨⟩)
  have optional (key : Text) : (Slot.optional key Check.optionalText none .ofText?).Settles := by
    refine (Slot.exact_optional key _ none _ Check.keeps_optionalText).settles ?_
    rintro _ ⟨⟩
    exact Json.settled_null
  simp only [slots, List.forall_mem_cons, List.not_mem_nil, false_implies, implies_true, and_true]
  refine ⟨?_, ?_, ?_, ?_, ?_, ?_, ?_, ?_, ?_, ?_, ?_, ?_, ?_, ?_, ?_, ?_, ?_, ?_, ?_, ?_, ?_, ?_,
    ?_, ?_, ?_⟩
  case refine_2 =>
    refine (Slot.exact_optional _ _ _ _ keeps_status).settles ?_
    rintro _ ⟨⟩
    exact Json.settled_name "queued"
  case refine_3 =>
    refine (Slot.exact_optional _ _ _ _ keeps_phase).settles ?_
    rintro _ ⟨⟩
    exact Json.settled_name "queued"
  case refine_17 =>
    refine (Slot.exact_optional _ _ _ _ Check.keeps_texts).settles ?_
    rintro _ ⟨⟩
    exact .list [] (List.forall_mem_nil _)
  case refine_19 =>
    constructor
    · intro value kept settled given
      obtain ⟨feedback, valid, rfl⟩ := Option.map_eq_some_iff.mp given
      rcases Check.nullable_cases Feedback.check value feedback valid with
        ⟨rfl, rfl⟩ | ⟨judged, rfl, checked⟩
      · exact settled
      · exact Feedback.settled_of_check value judged settled checked
    · rintro _ ⟨⟩
      exact Json.settled_null
  case refine_23 =>
    constructor
    · intro value kept settled given
      obtain ⟨place, valid, rfl⟩ := Option.map_eq_some_iff.mp given
      exact .scalar _ (Check.integer_scalar value place settled valid)
    · rintro _ ⟨⟩
      exact .scalar _ (by decide : (Text.ofNat 0).length ≤ maxDigits)
  all_goals first | exact required _ | exact optional _

/-- The keys of a run are the library's own and have nothing to join. -/
theorem slots_keys : ∀ slot ∈ slots, slot.key.joined = slot.key := by
  simp only [slots, Slot.required, Slot.optional, List.forall_mem_cons, Text.joined_ofString,
    List.not_mem_nil, false_implies, implies_true, and_true]

/-- A run that was read is settled. Only the value has to be settled before: which of its
    fields were given makes no difference. -/
theorem settled_of_check (value : Json) (run : Run) (settled : value.Settled)
    (valid : (check value).value? = some run) : run.toJson.Settled := by
  cases value with
  | object fields =>
    have taken := value?_checkFields fields
    rw [show (checkFields fields).value? = some run from valid] at taken
    exact Slot.settled_of_takeAll? slots fields run.fields settled slots_settle slots_keys
      taken.symm
  | _ => cases valid

/-- Nothing is left to join in a run that was read. The run is told by the values of its
    fields, and each of them is settled. -/
theorem joined_of_settled (run : Run) (settled : run.toJson.Settled) : run.joined = run := by
  have same := settled.joined_eq
  rw [toJson_joined] at same
  exact eq_of_get?_fields _ _ fun key => congrArg (Table.get? · key) (Json.object.inj same)

/-- The place of a run that was read in its chain can be written, since it is the one number
    of a settled value. -/
theorem writable_of_settled (run : Run) (settled : run.toJson.Settled) :
    Store.writable run = true := by
  have stored : run.toJson.field? "chainIndex" = some (.int run.chainIndex) := rfl
  have place := (settled.field "chainIndex" stored).writable
  rw [Store.writable, Text.ofInt?, if_pos (place run.chainIndex rfl)]
  rfl

end Run

end AgentRuns
