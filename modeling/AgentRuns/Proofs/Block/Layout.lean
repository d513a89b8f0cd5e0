import AgentRuns.Proofs.Block.Escapes
import AgentRuns.Proofs.Block.Extent
import AgentRuns.Proofs.Json.RoundTrip

/-!
# Blocks as they are written

A writer lays a block out around its one text field, on one line or over many. A
layout is such a block without the payload: what stands above, before, behind and
below the field, with braces that balance behind the last line and not before.
Whether they do is told with an empty payload, since an escaped payload weighs
nothing.

A payload that is an object comes back from every layout as it was. The block
ends where the layout ends, in whatever transcript it stands, and no quote,
backslash or brace of the payload moves either end of what is captured.

What is captured is then decoded. A payload that writes no value leaves the summary
empty. One that nests deeper than there is room for ends the reading of the transcript.
-/

namespace AgentRuns

namespace Text

/-- What stands before the lines of a text and what stands in its first line is
    on one line. -/
theorem unlines_cons_append (first rest : Text) (below : List Line) :
    unlines ((first ++ rest) :: below) = first ++ unlines (rest :: below) := by
  cases below with
  | nil => simp [unlines]
  | cons next below => simp [unlines, List.intercalate_cons_cons]

/-- Lines are cut within a line. The part before the cut ends the first half, and the part
    behind it begins the second. -/
theorem unlines_cut (above : List Line) (first rest : Text) (below : List Line) :
    unlines (above ++ (first ++ rest) :: below) =
      unlines (above ++ [first]) ++ unlines (rest :: below) := by
  have single : unlines [first] = first := List.intercalate_singleton
  cases above with
  | nil => rw [List.nil_append, List.nil_append, unlines_cons_append, single]
  | cons line above =>
    rw [unlines_append (line :: above) _ (List.cons_ne_nil _ _) (List.cons_ne_nil _ _),
      unlines_append (line :: above) _ (List.cons_ne_nil _ _) (List.cons_ne_nil _ _), single,
      unlines_cons_append, List.append_assoc, List.append_assoc]

end Text

namespace Block

/-- What stands around the text field of a block. -/
structure Frame where
  above : List Line
  before : Text
  behind : Text
  below : List Line

namespace Frame

/-- The line of the text field. -/
def field (frame : Frame) (payload : Text) : Line :=
  frame.before ++ ("text: \"" ++ (escape payload ++ ("\"" ++ frame.behind)))

/-- The lines of the block. -/
def lines (frame : Frame) (payload : Text) : List Line :=
  frame.above ++ frame.field payload :: frame.below

end Frame

/-- A frame that holds one text field, is no tool header on any line behind its
    first one, and whose braces balance behind its last line and not before. -/
structure Layout extends Frame where
  unquoted : Place.outside.behind (before ++ "text: ") = Place.outside
  noField : Text.includes (Text.unlines (above ++ [before]) ++ "text") "text:" = false
  noRule : before.head? ≠ some '─'
  noHeader : ∀ line ∈ above.tail ++ below, line.isToolHeader = false
  openBefore : ∀ count < above.length + below.length,
    0 < (Block.of ((toFrame.lines []).take (count + 1))).depth
  closes : (Block.of (toFrame.lines [])).depth ≤ 0

namespace Layout

/-- The block over several lines. -/
def spread : Layout where
  above := ["Annotated \x7b", "    raw: Text(", "        RawTextContent \x7b"]
  before := "            "
  behind := ","
  below := ["            meta: None,", "        \x7d,", "    ),", "    annotations: None,", "\x7d"]
  unquoted := by decide
  noField := by decide +kernel
  noRule := by decide
  noHeader := by decide
  openBefore := by decide +kernel
  closes := by decide +kernel

/-- The block over several lines with the annotations of a result that is meant
    for the user. -/
def annotated : Layout where
  above := ["Annotated \x7b", "    raw: Text(", "        RawTextContent \x7b"]
  before := "            "
  behind := ","
  below := ["            meta: None,", "        \x7d,", "    ),", "    annotations: Some(",
    "        Annotations \x7b", "            audience: Some(", "                [",
    "                    User,", "                ],", "            ),",
    "            priority: Some(", "                0.0,", "            ),", "        \x7d,",
    "    ),", "\x7d"]
  unquoted := by decide
  noField := by decide +kernel
  noRule := by decide
  noHeader := by decide
  openBefore := by decide +kernel
  closes := by decide +kernel

/-- The block on one line. -/
def single : Layout where
  above := []
  before := "Annotated \x7b raw: Text(RawTextContent \x7b "
  behind := ", meta: None \x7d), annotations: None \x7d"
  below := []
  unquoted := by decide +kernel
  noField := by decide +kernel
  noRule := by decide
  noHeader := by decide
  openBefore := by decide +kernel
  closes := by decide +kernel

/-- The payload does not change what a line adds to the depth. It stands in quotes, and no
    quote is open before it. -/
theorem braceDelta_lines (layout : Layout) (payload : Text) :
    (layout.lines payload).map braceDelta = (layout.lines []).map braceDelta := by
  have weighs (given : Text) : braceDelta (layout.field given) =
      braceDelta (layout.before ++ "text: ") + braceDelta layout.behind := by
    have quoted := braceDelta_quoted _ _ layout.behind layout.unquoted (enclosed_escape given)
    rwa [List.append_assoc] at quoted
  rw [Frame.lines, Frame.lines, List.map_append, List.map_append, List.map_cons, List.map_cons,
    weighs, weighs]

/-- A stretch of the block's lines is as deep as it is with an empty payload. So the depth of
    a layout is looked at once for all payloads. -/
theorem depth_take (layout : Layout) (payload : Text) (count : Nat) :
    (Block.of ((layout.lines payload).take count)).depth =
      (Block.of ((layout.lines []).take count)).depth := by
  rw [Block.of, Block.of, List.map_take, List.map_take, layout.braceDelta_lines]

/-- The line of the text field is no tool header, since the payload in it does not reach the
    end of the line. -/
theorem field_isToolHeader (layout : Layout) (payload : Text) :
    (layout.field payload).isToolHeader = false := by
  rw [Bool.eq_false_iff]
  intro header
  obtain ⟨⟨tool, extension⟩, found⟩ := Option.isSome_iff_exists.mp header
  obtain ⟨rule, rest, form, _⟩ := (Line.toolHeader?_eq_some _ tool extension).mp found
  have first : (layout.field payload).head? = some '─' := by
    rw [form]
    rfl
  have noRule := layout.noRule
  unfold Frame.field at first
  cases start : layout.before with
  | nil =>
    rw [start] at first
    cases first
  | cons c before =>
    rw [start] at first noRule
    exact noRule first

/-- The block has no tool header behind its first line. The lines of the layout are looked at
    once, and the field for all payloads. -/
theorem isToolHeader_of_mem_tail (layout : Layout) (payload : Text) (line : Line)
    (member : line ∈ (layout.lines payload).tail) : line.isToolHeader = false := by
  have inside : line ∈ layout.above.tail ++ layout.field payload :: layout.below := by
    rw [Frame.lines] at member
    cases above : layout.above with
    | nil =>
      rw [above] at member
      exact List.mem_cons_of_mem _ member
    | cons first others => rwa [above] at member
  rcases List.mem_append.mp inside with isAbove | further
  · exact layout.noHeader line (List.mem_append_left _ isAbove)
  · rcases List.mem_cons.mp further with rfl | isBelow
    · exact layout.field_isToolHeader payload
    · exact layout.noHeader line (List.mem_append_right _ isBelow)

/-- Wherever the block stands, its lines are the ones that are taken. Neither what stands
    before it nor what follows it can lengthen it or cut it short. -/
theorem at?_lines (layout : Layout) (payload : Text) (before after : List Line) :
    at? (before ++ (layout.lines payload ++ after)) before.length =
      some (Block.of (layout.lines payload)) := by
  obtain ⟨opening, more, form⟩ : ∃ opening more, layout.lines payload = opening :: more :=
    List.exists_cons_of_ne_nil (by simp [Frame.lines])
  have size : more.length = layout.above.length + layout.below.length := by
    have whole := congrArg List.length form
    simp only [Frame.lines, List.length_append, List.length_cons] at whole
    omega
  rw [form]
  refine at?_of_closed before opening more after (goesOn_of_open _ more ?_ ?_) ?_
  · intro line member
    apply layout.isToolHeader_of_mem_tail payload line
    rwa [form, List.tail_cons]
  · intro count inside
    have isOpen := layout.openBefore count (size ▸ inside)
    rwa [← layout.depth_take payload, form, List.take_succ_cons, ← List.singleton_append,
      ← append_of] at isOpen
  · have whole := layout.closes
    rwa [Block.of, ← layout.braceDelta_lines payload, form] at whole

/-- The captured payload is the written one, still escaped. No line of the layout before the
    field holds a field of its own. -/
theorem escapedPayload?_lines (layout : Layout) (inner : Text) :
    escapedPayload? (Text.unlines (layout.lines ("\x7b" ++ (inner ++ "\x7d")))) =
      some (escape ("\x7b" ++ (inner ++ "\x7d"))) := by
  rw [Frame.lines, Frame.field, Text.unlines_cut, Text.unlines_cons_append,
    Text.unlines_cons_append, Text.unlines_cons_append]
  exact escapedPayload?_behind _ _ _ layout.noField (payloadHere?_escape inner _)

/-- The block is summed up as the written payload is. A payload that is malformed and one that
    nests too deeply are told apart here. -/
theorem ofBlock_lines [NestingLimits] (layout : Layout) (inner : Text) :
    Summary.ofBlock (Block.of (layout.lines ("\x7b" ++ (inner ++ "\x7d")))) =
      match Json.readLenient NestingLimits.payload ("\x7b" ++ (inner ++ "\x7d")) with
      | .ok decoded => Summary.ofPayload decoded
      | .error .malformed => .ok []
      | .error (.tooDeep bracket) => .error (.tooDeep bracket) := by
  rw [Summary.ofBlock, Block.payload, Block.text, Block.of, layout.escapedPayload?_lines inner]
  simp only [Block.unescape_escape]
  rcases Json.readLenient NestingLimits.payload ("\x7b" ++ (inner ++ "\x7d")) with
    (_ | _) | _ <;> rfl

end Layout

end Block

/-- A payload in braces is captured as it was written, from every layout and in
    every transcript: the block ends with its layout, the captured payload is the given
    text, and the block is summed up as that text is. A text that writes a value is summed
    up as the value, one that is malformed not at all, and one that nests deeper than
    there is room for fails. -/
theorem written_payload_is_captured [NestingLimits] (layout : Block.Layout) (payload : Text)
    (opens : payload.head? = some '{') (closes : payload.getLast? = some '}')
    (before after : List Line) :
    ∃ block, Block.at? (before ++ (layout.lines payload ++ after)) before.length = some block ∧
      block.lines = layout.lines payload ∧
      (before ++ (layout.lines payload ++ after)).drop (before.length + block.lines.length) =
        after ∧
      (Block.escapedPayload? block.text).map Block.unescape = some payload ∧
      Summary.ofBlock block =
        match Json.readLenient NestingLimits.payload payload with
        | .ok decoded => Summary.ofPayload decoded
        | .error .malformed => .ok []
        | .error (.tooDeep bracket) => .error (.tooDeep bracket) := by
  obtain ⟨inner, rfl⟩ : ∃ inner : Text, payload = "\x7b" ++ (inner ++ "\x7d") := by
    obtain ⟨rest, rfl⟩ := List.head?_eq_some_iff.mp opens
    obtain ⟨front, form⟩ := List.getLast?_eq_some_iff.mp closes
    cases front with
    | nil => exact absurd (List.cons.inj form).1 (by decide)
    | cons c front =>
      obtain ⟨rfl, rfl⟩ := List.cons.inj form
      exact ⟨front, rfl⟩
  have captured := layout.escapedPayload?_lines inner
  refine ⟨_, layout.at?_lines _ before after, rfl, ?_, ?_, layout.ofBlock_lines inner⟩
  · rw [← List.drop_drop, List.drop_left]
    exact List.drop_left
  · rw [Block.text, Block.of, captured, Option.map_some, Block.unescape_escape]

/-- A payload that mimics the end of its field, the start of another one, a run of
    backslashes and unbalanced braces. -/
def deceptivePayload : Text :=
  "\x7b\"note\": \"\\\\\\\"\x7d\\\" \x7d\x7d, text: \\\"\x7b\", \"success\": true\x7d"

/-- A payload that is written to mislead is captured whole, in a block of several lines and in
    one of a single line, with other lines on both sides. -/
theorem deceptive_payload_is_captured :
    deceptivePayload.head? = some '{' ∧ deceptivePayload.getLast? = some '}' ∧
    (∃ block, Block.at? ("$ ls" :: (Block.Layout.spread.lines deceptivePayload ++ [[]])) 1 =
      some block ∧ Summary.ofBlock block = .ok "stored") ∧
    ∃ block, Block.at? ("$ ls" :: (Block.Layout.single.lines deceptivePayload ++ [[]])) 1 =
      some block ∧ Summary.ofBlock block = .ok "stored" := by
  have opens : deceptivePayload.head? = some '{' := by decide
  have closes : deceptivePayload.getLast? = some '}' := by decide +kernel
  have summary : (match Json.readLenient NestingLimits.payload deceptivePayload with
      | .ok decoded => Summary.ofPayload decoded
      | .error .malformed => .ok []
      | .error (.tooDeep bracket) => .error (.tooDeep bracket)) = .ok "stored" := by
    decide +kernel
  obtain ⟨spread, taken, _, _, _, summed⟩ :=
    written_payload_is_captured .spread deceptivePayload opens closes ["$ ls"] [[]]
  obtain ⟨single, takenLine, _, _, _, summedLine⟩ :=
    written_payload_is_captured .single deceptivePayload opens closes ["$ ls"] [[]]
  exact ⟨opens, closes, ⟨spread, taken, summed.trans summary⟩,
    ⟨single, takenLine, summedLine.trans summary⟩⟩

/-- What stands between the braces of an object with so many lists within each other. -/
def nestedLists (count : Nat) : Text :=
  "\"a\": " ++ (List.replicate count (CodePoint.char '[') ++
    List.replicate count (CodePoint.char ']'))

/-- An object of lists within each other writes a value. Where fewer levels are left for
    the lists than there are lists it is not decoded. -/
theorem readLenient_nestedLists (room count : Nat) (beyond : room < count) :
    Json.readLenient (room + 1) ("\x7b" ++ (nestedLists count ++ "\x7d")) =
      .error (.tooDeep .list) := by
  obtain ⟨count, rfl⟩ : ∃ less, count = less + 1 := ⟨count - 1, by omega⟩
  generalize size : 2 * ("\x7b" ++ (nestedLists (count + 1) ++ "\x7d") : Text).length + 2 = bound
  have enough : 2 * room + 2 < bound := by
    rw [← size, nestedLists]
    simp only [List.length_append, List.length_replicate]
    omega
  obtain ⟨bound, rfl⟩ : ∃ less, bound = less + 2 := ⟨bound - 2, by omega⟩
  rw [Json.readLenient, Json.read, size, nestedLists, List.append_assoc, List.append_assoc]
  generalize more : List.replicate (count + 1) (CodePoint.char ']') ++ "\x7d" = rest
  have lists := Json.readValue_brackets true (count + 1) room bound rest beyond (by omega)
  have fields : Json.readFields true (bound + 1) room (CodePoint.char '"' :: ("a\": " ++
      (List.replicate (count + 1) (CodePoint.char '[') ++ rest))) = .error (.tooDeep .list) :=
    Json.readFields_error rfl rfl lists
  have object : Json.readValue true (bound + 2) (room + 1) (CodePoint.char '{' ::
      ("\"a\": " ++ (List.replicate (count + 1) (CodePoint.char '[') ++ rest))) =
        .error (.tooDeep .list) :=
    (Json.readValue_object rfl).trans (congrArg (Except.map _) fields)
  exact congrArg (· >>= _) object

/-- A payload that nests more deeply than there is room for fails the summary of its block.
    It is neither empty nor that of the value. -/
theorem nested_payload_has_no_summary :
    ∃ payload : Text, payload.head? = some '{' ∧ payload.getLast? = some '}' ∧
      ∃ block, Block.at? (Block.Layout.spread.lines payload) 0 = some block ∧
        Summary.ofBlock block = .error (.tooDeep .list) := by
  refine ⟨"\x7b" ++ (nestedLists 100000 ++ "\x7d"), rfl, ?_,
    Block.of (Block.Layout.spread.lines ("\x7b" ++ (nestedLists 100000 ++ "\x7d"))), ?_, ?_⟩
  · rw [← List.append_assoc, List.getLast?_append]
    rfl
  · have stands := Block.Layout.spread.at?_lines ("\x7b" ++ (nestedLists 100000 ++ "\x7d")) [] []
    rwa [List.append_nil] at stands
  · have deep : NestingLimits.payload = 984 + 1 := rfl
    rw [Block.Layout.ofBlock_lines, deep, readLenient_nestedLists 984 100000 (by decide)]

end AgentRuns
