import AgentRuns.Inspector.Render
import AgentRuns.Proofs.Inspector.Sequences
import AgentRuns.Proofs.Table

/-!
# Colour is presentation

What the inspector writes to a terminal is what it writes to any other stream, with
sequences that switch styles in between. Every form of an event and every part of
the summary fades from the one to the other: texts are cut and aligned before they
are painted, so no width, no count and no order depends on the palette.
-/

namespace AgentRuns

open Text

/-- The palette of a terminal. -/
def Palette.ansi : Palette := ⟨true⟩

/-- The palette of any other stream. -/
def Palette.blank : Palette := ⟨false⟩

/-- An event none of whose texts holds an escape character. -/
structure Event.Unescaped (event : Event) : Prop where
  content : Text.Unescaped event.content
  tool : ∀ text ∈ event.tool, Text.Unescaped text
  extension : ∀ text ∈ event.extension, Text.Unescaped text
  params : ∀ entry ∈ event.params.getD [], Text.Unescaped entry.1 ∧ Text.Unescaped entry.2
  result : ∀ text ∈ event.result, Text.Unescaped text
  command : ∀ text ∈ event.command, Text.Unescaped text
  phase : ∀ text ∈ event.phase, Text.Unescaped text
  provider : ∀ text ∈ event.provider, Text.Unescaped text
  model : ∀ text ∈ event.model, Text.Unescaped text

namespace Render

/-- A style fades to the mark of the blank palette, which is nothing. -/
theorem fadesTo_mark (style : Style) :
    FadesTo (Palette.ansi.mark style) (Palette.blank.mark style) :=
  fadesTo_sequence style

/-- A painted text fades to the text. Its own characters must bring no sequence in. -/
theorem fadesTo_paint (style : Style) (text : Text) (unescaped : Unescaped text) :
    FadesTo (Palette.ansi.paint style text) (Palette.blank.paint style text) :=
  ((fadesTo_mark style).append unescaped.fadesTo).append (fadesTo_mark .reset)

/-- A field with something to stand for it is clean if both are. -/
theorem unescaped_getD (field : Option Text) (fallback : Text)
    (present : ∀ text ∈ field, Unescaped text) (absent : Unescaped fallback) :
    Unescaped (field.getD fallback) := by
  cases field with
  | none => exact absent
  | some text => exact present text rfl

/-- A field that is shown is as clean as it is, present or not. The word that stands for an
    absent one is clean. -/
theorem unescaped_orNone (field : Option Text) (present : ∀ text ∈ field, Unescaped text) :
    Unescaped (orNone field) :=
  unescaped_getD field "None" present (by decide)

/-- A field that is present is the one that was given. -/
theorem mem_of_present? (field : Option Text) (text : Text) (present : present? field = some text) :
    text ∈ field :=
  (Option.filter_eq_some_iff.mp present).1

/-- The number of an event fades to the plain number. Numbers have digits alone. -/
theorem fadesTo_numbered (event : Event) :
    FadesTo (numbered .ansi event) (numbered .blank event) :=
  fadesTo_paint .gray _ ((unescaped_ofInt event.index).alignRight 3)

/-- The output of a clean content is clean, line by line. -/
theorem unescaped_output (content : Text) (unescaped : Unescaped content) :
    ∀ line ∈ output content, Unescaped line := fun line member =>
  unescaped.lines line (List.mem_of_mem_drop (List.mem_of_mem_filter member))

/-- The lines of a preview fade to those of the plain preview. As many of them are shown in
    colour as without. -/
theorem fadesTo_outputPreview (limit : Nat) (lines : List Line)
    (unescaped : ∀ line ∈ lines, Unescaped line) :
    List.Forall₂ FadesTo (outputPreview .ansi limit lines) (outputPreview .blank limit lines) := by
  have shown := fadesTo_map (lines.take limit)
    (fun line => "     " ++ Palette.ansi.paint .dim (line.take previewWidth))
    (fun line => "     " ++ Palette.blank.paint .dim (line.take previewWidth))
    fun line member =>
      have clean := (unescaped line (List.mem_of_mem_take member)).take previewWidth
      (fadesTo_paint .dim _ clean).behind "     " (by decide)
  unfold outputPreview
  dsimp only
  split
  · exact shown
  · have others : Unescaped ("... " ++ Text.ofNat (lines.length - limit) ++ " more lines") :=
      (Unescaped.append (by decide) (unescaped_ofNat _)).append (by decide)
    exact List.rel_append shown
      (.cons ((fadesTo_paint .dim _ others).behind "     " (by decide)) .nil)

/-- What is left of a parameter's value is of the value, or a point. So a clean value is shown
    clean. -/
theorem unescaped_parameterValue (value : Text) (unescaped : Unescaped value) :
    Unescaped (parameterValue value) := by
  unfold parameterValue
  split
  · exact unescaped
  · exact (unescaped.take _).append (by decide)

section Forms

variable (event : Event) (unescaped : event.Unescaped)

include unescaped

/-- A call fades to its plain form: its number, its tool, its parameters and the preview of
    its result. -/
theorem fadesTo_toolCall : FadesTo (toolCall .ansi event) (toolCall .blank event) := by
  unfold toolCall
  refine fadesTo_unlines _ _ (List.rel_append (List.rel_append (.cons ?heading ?params) ?output)
    ?result)
  case heading =>
    have tool := unescaped_orNone event.tool unescaped.tool
    have named := ((((fadesTo_numbered event).before " " (by decide)).append
      (fadesTo_mark (toolStyle event.tool))).append (fadesTo_paint .bold _ tool)).before " "
      (by decide)
    refine named.append ?_
    split
    · rename_i extension present
      have clean := unescaped.extension extension (mem_of_present? _ _ present)
      exact fadesTo_paint .gray _ (Unescaped.append (by decide) clean)
    · exact fadesTo_nil
  case params =>
    refine fadesTo_map _ _ _ fun entry member => ?_
    have ⟨key, value⟩ := unescaped.params entry member
    have painted := fadesTo_paint .gray (entry.1 ++ ":") (key.append (by decide))
    exact ((painted.behind _ (by decide)).before " " (by decide)).before _
      (unescaped_parameterValue entry.2 value)
  case output => exact fadesTo_outputPreview 5 _ (unescaped_output _ unescaped.content)
  case result =>
    split
    · rename_i result present
      have clean := unescaped.result result (mem_of_present? _ _ present)
      refine .cons (((fadesTo_mark .green).behind _ (by decide)).append
        (fadesTo_paint .bold _ (by decide))) ?_
      exact fadesTo_map _ _ _ fun line member =>
        (fadesTo_paint .green _ (clean.lines line member)).behind _ (by decide)
    · exact .nil

/-- A thought fades to its plain form, line by line. -/
theorem fadesTo_thinking : FadesTo (thinking .ansi event) (thinking .blank event) := by
  have number := (unescaped_ofInt event.index).alignRight 3
  have content := unescaped.content.abridge thinkingWidth
  have marked := ((fadesTo_mark .gray).before _ number).before " " (by decide)
  exact marked.append (fadesTo_paint .dim _ (Unescaped.append (by decide) content))

/-- A command fades to its plain form, the preview of its output with it. -/
theorem fadesTo_shellCommand :
    FadesTo (shellCommand .ansi event) (shellCommand .blank event) := by
  have command : Unescaped ("$ " ++ orNone event.command) :=
    Unescaped.append (by decide) (unescaped_orNone event.command unescaped.command)
  have heading := ((fadesTo_numbered event).before " " (by decide)).append
    (fadesTo_paint .blue _ command)
  have output := fadesTo_outputPreview 3 _ (unescaped_output _ unescaped.content)
  exact fadesTo_unlines _ _ (.cons heading output)

/-- A phase fades to its plain form. -/
theorem fadesTo_phaseMarker : FadesTo (phaseMarker .ansi event) (phaseMarker .blank event) := by
  have phase := (unescaped_getD event.phase [] unescaped.phase (by decide)).upper
  have shown : Unescaped (" " ++ Text.upper (event.phase.getD []) ++ " ") :=
    (Unescaped.append (by decide) phase).append (by decide)
  have command := unescaped_getD event.command [] unescaped.command (by decide)
  have marked := ((fadesTo_numbered event).before " " (by decide)).append
    (fadesTo_paint (phaseStyle (event.phase.getD [])) _ shown)
  exact (marked.before " " (by decide)).append (fadesTo_paint .dim _ command)

/-- The start of a session fades to its plain form. -/
theorem fadesTo_sessionStart :
    FadesTo (sessionStart .ansi event) (sessionStart .blank event) := by
  have provider := unescaped_orNone event.provider unescaped.provider
  have model := unescaped_orNone event.model unescaped.model
  have marked := ((fadesTo_numbered event).before " " (by decide)).append
    (fadesTo_paint .onGreen " SESSION " (by decide))
  have provided := (marked.before " " (by decide)).append (fadesTo_paint .bold _ provider)
  exact (provided.before " / " (by decide)).before _ model

/-- A note fades to its plain form. -/
theorem fadesTo_info : FadesTo (info .ansi event) (info .blank event) :=
  ((fadesTo_numbered event).before " " (by decide)).append
    (fadesTo_paint .dim _ unescaped.content)

/-- Every form of an event fades to its plain form. The kind of the event decides the form and
    is the same on both sides. -/
theorem fadesTo_event : FadesTo (Render.event .ansi event) (Render.event .blank event) := by
  unfold Render.event
  cases event.kind with
  | toolCall => exact fadesTo_toolCall event unescaped
  | agentThinking => exact fadesTo_thinking event unescaped
  | shellCommand => exact fadesTo_shellCommand event unescaped
  | phaseMarker => exact fadesTo_phaseMarker event unescaped
  | sessionStart => exact fadesTo_sessionStart event unescaped
  | info => exact fadesTo_info event unescaped

/-- A clean call is counted under a clean name. The name for calls without a tool is clean. -/
theorem unescaped_toolName : Unescaped (EventStats.toolName event) := by
  unfold EventStats.toolName Text.orElse
  split
  · decide
  · exact unescaped_getD event.tool [] unescaped.tool (by decide)

/-- One more clean event leaves the names of the tools clean. It brings one name in at most. -/
theorem unescaped_add (stats : EventStats)
    (names : ∀ entry ∈ stats.tools, Unescaped entry.1) :
    ∀ entry ∈ (stats.add event).tools, Unescaped entry.1 := by
  intro entry member
  unfold EventStats.add at member
  cases kind : event.kind with
  | toolCall =>
    rw [kind] at member
    rcases Table.mem_of_put _ _ _ entry member with before | rfl
    · exact names entry before
    · exact unescaped_toolName event unescaped
  | sessionStart | agentThinking | shellCommand | phaseMarker | info =>
    rw [kind] at member
    exact names entry member

/-- The query of a clean call is clean. It is one of the values of its parameters. -/
theorem unescaped_memoryQuery : Unescaped (memoryQuery event) := by
  have clean (key text : Text) (found : (event.params.getD []).get? key = some text) :
      Unescaped text :=
    (unescaped.params (key, text) (Table.mem_of_get? _ key text found)).2
  refine unescaped_getD _ _ ?_ (by decide)
  intro text present
  rcases Option.or_eq_some_iff.mp present with query | ⟨_, content⟩
  · exact clean "query" text (mem_of_present? _ text query)
  · cases mem_of_present? _ text content
    exact (unescaped_getD _ [] (clean "content") (by decide)).take queryWidth

/-- The line of a call to a memory fades to its plain form. -/
theorem fadesTo_memoryLine :
    FadesTo (memoryLine .ansi event) (memoryLine .blank event) := by
  have tool := unescaped_orNone event.tool unescaped.tool
  have query : Unescaped ("\"" ++ (memoryQuery event).take queryWidth ++ "\"") :=
    (Unescaped.append (by decide) ((unescaped_memoryQuery event unescaped).take _)).append
      (by decide)
  have asked := (((fadesTo_paint .magenta _ tool).behind "  " (by decide)).before " "
    (by decide)).append (fadesTo_paint .dim _ query)
  refine (asked.before " → " (by decide)).append ?_
  split
  · exact fadesTo_paint .green _ (by decide)
  · exact fadesTo_paint .red _ (by decide)

end Forms

section Summary

variable (events : List Event) (unescaped : ∀ event ∈ events, event.Unescaped)

/-- The counts of the summary fade to the plain ones. They are digits and words of the
    program's own. -/
theorem fadesTo_counts (stats : EventStats) :
    List.Forall₂ FadesTo (counts .ansi stats) (counts .blank stats) := by
  have count (style : Style) (number : Int) (label : Text) (clean : Unescaped label) :=
    (fadesTo_paint style _ (unescaped_ofInt number)).behind label clean
  exact .cons fadesTo_nil (.cons (fadesTo_paint .bold _ (by decide))
    (.cons (count .bold stats.totalEvents _ (by decide))
    (.cons (count .cyan stats.toolCalls _ (by decide))
    (.cons (count .gray stats.thinkingBlocks _ (by decide))
    (.cons (count .blue stats.shellCommands _ (by decide)) .nil)))))

/-- A tool's name is aligned before it is painted, and its bar is as long as it was
    called often in every palette. -/
theorem fadesTo_toolLine (name : Text) (count : Int) (unescaped : Unescaped name) :
    FadesTo (toolLine .ansi name count) (toolLine .blank name count) := by
  have bar := unescaped_replicate (min count maxBar).toNat (.char '█') nofun
  have named := (fadesTo_paint (toolStyle (some name)) _ (unescaped.alignLeft 20)).behind "  "
    (by decide)
  have drawn := (named.before " " (by decide)).append (fadesTo_paint .dim _ bar)
  exact (drawn.before " " (by decide)).before _ (unescaped_ofInt count)

/-- The tools of the summary fade to the plain ones. Their names are the only texts from the
    log. -/
theorem fadesTo_tools (stats : EventStats) (names : ∀ entry ∈ stats.tools, Unescaped entry.1) :
    List.Forall₂ FadesTo (tools .ansi stats) (tools .blank stats) := by
  unfold tools
  split
  · exact .nil
  · refine List.rel_append (.cons fadesTo_nil (.cons (fadesTo_paint .bold _ (by decide)) .nil))
      (fadesTo_map _ _ _ fun entry member => ?_)
    exact fadesTo_toolLine entry.1 entry.2 (names entry (List.mem_mergeSort.mp member))

include unescaped

/-- The tools of clean events have clean names. They are gathered event by event. -/
theorem unescaped_tools : ∀ entry ∈ (EventStats.ofEvents events).tools, Unescaped entry.1 := by
  refine List.foldlRecOn events EventStats.add (motive := fun stats =>
    ∀ entry ∈ stats.tools, Unescaped entry.1) ?_ ?_
  · intro entry member
    cases member
  · intro stats names event member
    exact unescaped_add event (unescaped event member) stats names

/-- The calls to memories fade to the plain ones, call by call. -/
theorem fadesTo_memoryTools :
    List.Forall₂ FadesTo (memoryTools .ansi events) (memoryTools .blank events) := by
  unfold memoryTools
  dsimp only
  split
  · exact .nil
  · refine List.rel_append (.cons fadesTo_nil (.cons (fadesTo_paint .bold _ (by decide)) .nil))
      (fadesTo_map _ _ _ fun event member => ?_)
    exact fadesTo_memoryLine event (unescaped event (List.mem_of_mem_filter member))

/-- The summary fades to the plain summary. Its parts are the same on both sides, and each of
    them fades. -/
theorem fadesTo_stats : FadesTo (stats .ansi events) (stats .blank events) :=
  fadesTo_unlines _ _ (List.rel_append
    (List.rel_append (fadesTo_counts _) (fadesTo_tools _ (unescaped_tools events unescaped)))
    (fadesTo_memoryTools events unescaped))

end Summary

end Render

/-- A text that differs from a plain one by its sequences only, as a whole and line
    by line. -/
structure Coloured (styled plain : Text) : Prop where
  whole : styled.unstyled = plain
  lineByLine : styled.lines.map unstyled = plain.lines

/-- What fades to a plain text differs from it by its sequences only. In each of its lines the
    rest is that of the plain text. -/
theorem coloured_of_fadesTo {styled plain : Text} (fades : FadesTo styled plain) :
    Coloured styled plain where
  whole := fades.unstyled_eq
  lineByLine := by rw [← lines_unstyled, fades.unstyled_eq]

/-- Colour is presentation only. What a terminal is sent of events without escape
    characters, of each of them and of their summary, is what any other stream is
    sent, once the sequences that switch styles are taken out of it. -/
theorem colour_is_presentation (events : List Event)
    (unescaped : ∀ event ∈ events, event.Unescaped) :
    (∀ event ∈ events, Coloured (Render.event .ansi event) (Render.event .blank event)) ∧
      Coloured (Render.stats .ansi events) (Render.stats .blank events) :=
  ⟨fun event member =>
      coloured_of_fadesTo (Render.fadesTo_event event (unescaped event member)),
    coloured_of_fadesTo (Render.fadesTo_stats events unescaped)⟩

/-- A memory call with output and a result, a phase, and reasoning. -/
def sampleEvents : List Event :=
  [{ kind := .toolCall
     content := "memory_search: users\nfound in cache\n\ndone"
     tool := some "memory_search"
     extension := some "memory"
     params := some [("query", "users")]
     result := some "1 result\n  90% alice" },
    { kind := .phaseMarker
      index := 1
      content := "$ git push"
      command := some "git push"
      phase := some "pushing" },
    { kind := .agentThinking
      index := 2
      content := "Straße and \u00e9t\u00e9 are pushed." }]

/-- The sample is shown alike in colour and without, each event by itself and the summary of
    all. -/
theorem sample_is_shown_alike :
    (∀ event ∈ sampleEvents, Coloured (Render.event .ansi event) (Render.event .blank event)) ∧
      Coloured (Render.stats .ansi sampleEvents) (Render.stats .blank sampleEvents) := by
  refine colour_is_presentation sampleEvents ?_
  intro event member
  simp only [sampleEvents, List.mem_cons, List.not_mem_nil, or_false] at member
  rcases member with rfl | rfl | rfl <;> constructor <;> decide

end AgentRuns
