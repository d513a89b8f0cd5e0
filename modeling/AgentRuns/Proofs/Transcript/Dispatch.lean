import AgentRuns.Proofs.Transcript.Steps

/-!
# The order of the tests

A line between items is tested for noise, then for the opening of a block and for the
four kinds of lines that begin an item; what is none of them is prose. The words that
tell a kind exclude those of every other, so behind the test for noise the order of
the tests decides nothing: each order of them assembles the same events of every
transcript, and fails where the others fail. For the same reason no line that begins
an item is taken for a parameter.
-/

namespace AgentRuns

/-- Where at most one item of a list has an answer, the first answer does not depend on
    the order of the list. -/
theorem findSome?_of_perm {α β : Type} (answer : α → Option β) (items others : List α)
    (same : items.Perm others)
    (alone : ∀ item ∈ items, ∀ other ∈ items, (answer item).isSome = true →
      (answer other).isSome = true → item = other) :
    items.findSome? answer = others.findSome? answer := by
  induction same with
  | nil => rfl
  | cons item _ inductionHypothesis =>
    have rest := inductionHypothesis fun first member other inside =>
      alone first (List.mem_cons_of_mem item member) other (List.mem_cons_of_mem item inside)
    rw [List.findSome?_cons, List.findSome?_cons, rest]
  | swap first second rest =>
    simp only [List.findSome?_cons]
    cases one : answer first with
    | none => rfl
    | some value =>
      cases two : answer second with
      | none => rfl
      | some other =>
        have equal := alone first (by simp) second (by simp) (by simp [one]) (by simp [two])
        rw [← equal, one] at two
        exact two.symm
  | trans first _ firstHypothesis secondHypothesis =>
    rw [firstHypothesis alone]
    refine secondHypothesis fun item member other inside => ?_
    exact alone item (first.mem_iff.mpr member) other (first.mem_iff.mpr inside)

namespace Assembly

/-- The kinds of lines that begin something between items, in the order of their tests. -/
def beginnings : List Line.Kind := [.opening, .header, .command, .session, .run]

/-- The assembly behind a line of a kind, none if the line is not of that kind or the
    kind begins nothing. -/
def beginAs? (assembly : Assembly) (line : Line) : Line.Kind → Option Assembly
  | .opening =>
    if line.opensBlock then some { assembly with stage := .detached (Block.start line) } else none
  | .header => line.toolHeader?.map fun (tool, extension) =>
    { assembly.flush with stage := .params { tool, extension } }
  | .command => line.command?.map fun command =>
    { assembly.flush with stage := .command command [] }
  | .session => line.session?.map fun (provider, model) =>
    { assembly.flush with stage := .session provider model }
  | .run => line.runHeader?.map fun _ => assembly.flush.emit { kind := .info, content := line }
  | .parameter | .detail => none

/-- A line between items, with the kinds tested in an order behind the test for noise. -/
def startBy (order : List Line.Kind) (assembly : Assembly) (line : Line) : Assembly :=
  if line.isNoise then assembly
  else (order.findSome? (assembly.beginAs? line)).getD
    { assembly with thinking := assembly.thinking ++ [line] }

/-- One more line, with the tests in an order. -/
def feedBy [NestingLimits] (order : List Line.Kind) (assembly : Assembly) (line : Line) :
    Except SummaryError Assembly :=
  match assembly.stage.takes? line with
  | some stage => return { assembly with stage }
  | none => return (← assembly.settle).startBy order line

/-- The events of lines, with the tests in an order. -/
def ofLinesBy [NestingLimits] (order : List Line.Kind) (lines : List Line) : Except SummaryError
    (List Event) := do
  (← lines.foldlM (feedBy order) {}).finish

/-- Only a line of the kind begins something of it. The kinds exclude each other, so at most
    one of them begins something. -/
theorem isOf_of_beginAs? (assembly : Assembly) (line : Line) (kind : Line.Kind)
    (begins : (assembly.beginAs? line kind).isSome = true) : line.isOf kind = true := by
  cases kind with
  | opening =>
    rw [beginAs?] at begins
    split at begins
    · assumption
    · cases begins
  | header | command | session | run => rwa [beginAs?, Option.isSome_map] at begins
  | parameter | detail => cases begins

/-- The tests in their own order. They are those that a line between items goes through. -/
theorem startBy_beginnings (assembly : Assembly) (line : Line) :
    assembly.startBy beginnings line = assembly.start line := by
  unfold startBy start
  split
  · rfl
  · simp only [beginnings, List.findSome?_cons, beginAs?]
    cases line.opensBlock with
    | true => rfl
    | false =>
      cases line.toolHeader? with
      | some call => rfl
      | none =>
        cases line.command? with
        | some command => rfl
        | none =>
          cases line.session? with
          | some session => rfl
          | none => cases line.runHeader? <;> rfl

/-- Every order of the tests does the same with a line. At most one test finds something in
    it. -/
theorem startBy_of_perm (order : List Line.Kind) (all : order.Perm beginnings)
    (assembly : Assembly) (line : Line) : assembly.startBy order line = assembly.start line := by
  have same := findSome?_of_perm (assembly.beginAs? line) order beginnings all
    fun kind _ other _ begins beginsToo => line.kind_unique kind other
      (assembly.isOf_of_beginAs? line kind begins) (assembly.isOf_of_beginAs? line other beginsToo)
  rw [← startBy_beginnings, startBy, startBy, same]

/-- Every order of the tests tells a log alike, failures included. -/
theorem ofLinesBy_of_perm [NestingLimits] (order : List Line.Kind) (all : order.Perm beginnings)
    (lines : List Line) : ofLinesBy order lines = ofLines lines := by
  have same : feedBy order = feed := by
    funext assembly line
    unfold feedBy feed
    cases assembly.stage.takes? line with
    | some stage => rfl
    | none =>
      cases assembly.settle with
      | error reason => rfl
      | ok settled => exact congrArg Except.ok (startBy_of_perm order all settled line)
  rw [ofLinesBy, ofLines, same]

end Assembly

/-- The events of a transcript, with the tests in an order. -/
def Transcript.eventsBy [NestingLimits] (order : List Line.Kind) (log : Text) : Except SummaryError
    (List Event) :=
  return Event.place (← Assembly.ofLinesBy order log.lines)

/-- A line that begins an item is no parameter. So the test for parameters may come before the
    others. -/
theorem Line.parameter?_of_isStructural (line : Line) (begins : line.isStructural = true) :
    line.parameter? = none := by
  obtain ⟨kind, is, notParameter, _⟩ := line.kind_of_isStructural begins
  simpa [isOf] using line.isOf_other kind .parameter is notParameter

/-- Below a call's header, a line that begins an item is passed over as noise or ends
    the parameters. It is never one of them. -/
theorem Stage.takes?_structural (call : Call) (line : Line) (begins : line.isStructural = true) :
    (Stage.params call).takes? line = if line.isNoise then some (.params call) else none := by
  simp [takes?, line.parameter?_of_isStructural begins, callTakes?, begins]

/-- The kinds of lines exclude each other, and a header is no noise. So the tests behind
    the test for noise can stand in any order, for every transcript, and the parameters
    of a call take no line that begins an item. -/
theorem order_of_tests_is_free [NestingLimits] :
    (∀ (line : Line) (kind other : Line.Kind), line.isOf kind = true → line.isOf other = true →
      kind = other) ∧
    (∀ line : Line, line.isToolHeader = true → line.isNoise = false) ∧
    (∀ order : List Line.Kind, order.Perm Assembly.beginnings → ∀ log : Text,
      Transcript.eventsBy order log = Transcript.events log) ∧
    ∀ (line : Line) (call : Call), line.isStructural = true → line.parameter? = none ∧
      (Stage.params call).takes? line = if line.isNoise then some (.params call) else none := by
  refine ⟨Line.kind_unique, Line.isNoise_of_isToolHeader, fun order all log => ?_,
    fun line call begins => ⟨line.parameter?_of_isStructural begins,
      Stage.takes?_structural call line begins⟩⟩
  rw [Transcript.eventsBy, Assembly.ofLinesBy_of_perm order all]
  rfl

/-- Lines of every kind with words of the others in them. -/
def crossedLog : Text := Text.unlines
  ["─── $ | run ───", "run: $ run", "$ run run run", "Annotated\x7b run run run",
    "starting session | provider: $ model: ───", " session id: Annotated \x7b", "run run run"]

/-- Its events are the same with the tests in the opposite order. -/
theorem crossed_log_in_opposite_order :
    Line.isNoise "─── $ | run ───" = false ∧
      Transcript.eventsBy Assembly.beginnings.reverse crossedLog = Transcript.events crossedLog ∧
      Line.parameter? "run run run" = none := by
  obtain ⟨_, quiet, free, noParameter⟩ := order_of_tests_is_free
  exact ⟨quiet _ (by decide), free _ (by decide) crossedLog,
    (noParameter "run run run" ⟨"$", "run", [], []⟩ (by decide)).1⟩

end AgentRuns
