import AgentRuns.Proofs.Transcript.ItemReading

/-!
# What is written is what is told

A sequence of items that is written to a log is assembled to one event for each
item, in order, with everything that was written. Nothing else crosses between
items but results: calls in a row share the blocks below them, and the summaries
of the blocks of the row's capturing calls are handed out to these calls in
their order. Where every capturing call has a block of its own, each call is
answered by its own block.
-/

namespace AgentRuns

/-- Whether the item is a call. -/
def Item.isCall : Item → Bool
  | .call _ => true
  | _ => false

/-- An item that is a call is a written call. -/
theorem Item.exists_of_isCall (item : Item) (isCall : item.isCall = true) :
    ∃ written, item = .call written := by
  cases item with
  | call written => exact ⟨written, rfl⟩
  | run | session | command | thought => cases isCall

/-- The summary of the item's block, if its result is captured. -/
def Item.summary? [NestingLimits] (item : Item) : Except SummaryError (Option Text) :=
  match item with
  | .call written =>
    match written.block? with
    | some closed =>
      if capturesResult written.tool then (Summary.ofBlock closed.block).map some else return none
    | none => return none
  | _ => return none

/-- The item with the summary of its block. -/
def Item.summarized [NestingLimits] (item : Item) : Except SummaryError (Item × Option Text) :=
  item.summary?.map fun summary => (item, summary)

/-- The summaries in the row of calls at the beginning. -/
def leading : List (Item × Option Text) → List Text
  | (.call _, summary) :: rest => summary.toList ++ leading rest
  | _ => []

/-- The events of items, when some summaries are given for the calls at the
    beginning. Each capturing call takes the first one that is left, and nothing
    is left behind the row. -/
def toldFrom : List Text → List (Item × Option Text) → List Event
  | _, [] => []
  | given, (.call written, _) :: rest =>
    if capturesResult written.tool then
      written.event (Text.present? given.head?) :: toldFrom given.tail rest
    else written.event none :: toldFrom given rest
  | _, (item, _) :: rest => item.event none :: toldFrom (leading rest) rest

/-- The events of items with their results. -/
def told (items : List (Item × Option Text)) : List Event := toldFrom (leading items) items

section Other

variable (item : Item) (summary : Option Text) (rest : List (Item × Option Text))
  (given : List Text) (other : item.isCall = false)

include other

/-- An item that is no call has no summary, and summarizing it does not fail. -/
theorem Item.summarized_other [NestingLimits] : item.summarized = .ok (item, none) := by
  cases item with
  | call => cases other
  | run | session | command | thought => rfl

/-- An item that is no call is told as an event that is none. -/
theorem Item.kind_other (result : Option Text) : (item.event result).kind ≠ .toolCall := by
  cases item with
  | call => cases other
  | run | session | thought => simp [Item.event]
  | command =>
    unfold Item.event
    dsimp only
    split <;> simp

/-- No row of calls begins with an item that is no call. -/
theorem leading_other : leading ((item, summary) :: rest) = [] := by
  cases item with
  | call => cases other
  | run | session | command | thought => rfl

/-- An item that is no call ends the row of calls. The summaries that are left are lost, and
    the next row has its own. -/
theorem toldFrom_other :
    toldFrom given ((item, summary) :: rest) = item.event none :: toldFrom (leading rest) rest := by
  cases item with
  | call => cases other
  | run | session | command | thought => rfl

/-- An item that is no call is told, and this is all. -/
theorem Assembly.tell_other [NestingLimits] (assembly : Assembly) :
    assembly.tell item = .ok (assembly.emit (item.event none)) := by
  cases item with
  | call => cases other
  | run | session | command | thought => rfl

/-- A result makes no difference to an item that is no call. -/
theorem Item.event_other (result : Option Text) : item.event result = item.event none := by
  cases item with
  | call => cases other
  | run | session | command | thought => rfl

end Other

/-- A summary stays with its item. -/
theorem Item.summarized_fst [NestingLimits] (item : Item) (entry : Item × Option Text)
    (done : item.summarized = .ok entry) : entry.1 = item := by
  obtain ⟨summary, _, rfl⟩ := ok_of_map _ _ entry done
  rfl

namespace Assembly

/-- A written call is told as its event; a capturing call joins the line. It is read with the
    parameters and the output that were written. -/
theorem announce_written (assembly : Assembly) (written : WrittenCall) (proper : written.Proper) :
    assembly.announce written.read =
      { assembly with
        events := assembly.events ++ [written.event none]
        pending :=
          if capturesResult written.tool then assembly.pending ++ [assembly.events.length]
          else assembly.pending } := by
  have same : Event.ofCall written.tool written.extension written.params written.output =
      written.event none := by
    simp [Event.ofCall, WrittenCall.event, proper.output.withOutput_eq]
  have isCall : (written.event none).kind = .toolCall := rfl
  simp only [announce, emit, WrittenCall.read, same, isCall, if_true]
  split <;> rfl

/-- Whoever stands in line stands among the events. -/
def Inside (assembly : Assembly) : Prop :=
  ∀ place ∈ assembly.pending, place < assembly.events.length

/-- A call stands in line, if at all, at the end of the events. -/
theorem announce_inside (assembly : Assembly) (written : WrittenCall) (proper : written.Proper)
    (inside : assembly.Inside) : (assembly.announce written.read).Inside := by
  rw [announce_written assembly written proper]
  intro place member
  rw [List.length_append, List.length_singleton]
  dsimp only at member
  split at member
  · rcases List.mem_append.mp member with before | last
    · exact Nat.lt_succ_of_lt (inside place before)
    · rw [List.mem_singleton.mp last]
      exact Nat.lt_succ_self _
  · exact Nat.lt_succ_of_lt (inside place member)

/-- Whoever stands in line behind an answer stood in it before. -/
theorem resolve_inside (assembly : Assembly) (summary : Text) (inside : assembly.Inside) :
    (assembly.resolve summary).Inside := by
  cases line : assembly.pending with
  | nil =>
    have unchanged : assembly.resolve summary = assembly := by simp [resolve, line]
    rw [unchanged]
    exact inside
  | cons first later =>
    rw [assembly.resolve_eq summary first later line]
    intro place member
    rw [List.length_modify]
    exact inside place (line ▸ List.mem_cons_of_mem first member)

/-- A written call is announced. If it is captured and has a block, the summary of
    the block answers besides. -/
theorem tell_call [NestingLimits] (assembly : Assembly) (written : WrittenCall) :
    (assembly.tell (.call written) = .ok (assembly.announce written.read) ∧
        (Item.call written).summarized = .ok (.call written, none)) ∨
      ∃ closed : ClosedBlock, capturesResult written.tool = true ∧
        assembly.tell (.call written) =
          (Summary.ofBlock closed.block).map (assembly.announce written.read).resolve ∧
        (Item.call written).summarized =
          (Summary.ofBlock closed.block).map fun summary => (.call written, some summary) := by
  cases block : written.block? with
  | none =>
    refine Or.inl ⟨?_, ?_⟩
    · simp [tell, block, pure, Except.pure]
    · simp [Item.summarized, Item.summary?, block, Except.map, pure, Except.pure]
  | some closed =>
    cases captured : capturesResult written.tool with
    | false =>
      refine Or.inl ⟨?_, ?_⟩
      · simp [tell, block, captured, pure, Except.pure]
      · simp [Item.summarized, Item.summary?, block, captured, Except.map, pure, Except.pure]
    | true =>
      refine Or.inr ⟨closed, rfl, ?_, ?_⟩
      · have someone : (assembly.announce written.read).pending ≠ [] := by
          have reads : capturesResult written.read.tool = true := captured
          simp [announce, reads]
        simp only [tell, block, captured, if_true, answerBy, List.isEmpty_iff, someone]
        cases Summary.ofBlock closed.block <;> rfl
      · simp only [Item.summarized, Item.summary?, block, captured, if_true]
        cases Summary.ofBlock closed.block <;> rfl

/-- What an assembly and the items behind it come to. The summaries of the row at
    the beginning go to whoever stands in line, and what is left of them to the
    calls of the row. -/
def outcome (assembly : Assembly) (items : List (Item × Option Text)) : List Event :=
  handedOut assembly.events assembly.pending (leading items) ++
    toldFrom ((leading items).drop assembly.pending.length) items

/-- Where no item follows the events are those that are there. -/
theorem outcome_nil (assembly : Assembly) : assembly.outcome [] = assembly.events := by
  have nothing : leading [] = [] := rfl
  rw [outcome, nothing, handedOut_nil, toldFrom, List.append_nil]

/-- An item other than a call ends the row, and whoever stands in line gets
    nothing. -/
theorem outcome_other (assembly : Assembly) (item : Item) (rest : List (Item × Option Text))
    (other : item.isCall = false) :
    assembly.outcome ((item, none) :: rest) =
      (assembly.emit (item.event none)).outcome rest := by
  have abandoned : (assembly.emit (item.event none)).pending = [] :=
    if_neg (item.kind_other other none)
  have told : (assembly.emit (item.event none)).events =
      assembly.events ++ [item.event none] := rfl
  rw [outcome, outcome, leading_other item none rest other, toldFrom_other item none rest _ other,
    handedOut_nil, abandoned, told, handedOut, List.append_assoc]
  · rfl
  · simp

/-- What is handed out to the line and then to a call is handed out to the line
    with the call in it. -/
theorem handedOut_written (assembly : Assembly) (written : WrittenCall) (proper : written.Proper)
    (inside : assembly.Inside)
    (given : List Text) (summary : Option Text) (rest : List (Item × Option Text)) :
    handedOut assembly.events assembly.pending given ++
        toldFrom (given.drop assembly.pending.length) ((.call written, summary) :: rest) =
      handedOut (assembly.announce written.read).events (assembly.announce written.read).pending
        given ++ toldFrom (given.drop (assembly.announce written.read).pending.length) rest := by
  rw [announce_written assembly written proper]
  cases captured : capturesResult written.tool with
  | true =>
    simp only [if_true, List.length_append, List.length_singleton]
    rw [handedOut_joined _ _ _ _ inside rfl, toldFrom, if_pos captured, List.head?_drop,
      List.tail_drop, List.append_assoc]
    rfl
  | false =>
    simp only [Bool.false_eq_true, if_false]
    rw [handedOut_append _ _ _ _ inside, toldFrom, if_neg (Bool.eq_false_iff.mp captured),
      List.append_assoc]
    rfl

/-- A call without a summary goes on with the row. Nobody is answered by it. -/
theorem outcome_call (assembly : Assembly) (written : WrittenCall) (proper : written.Proper)
    (inside : assembly.Inside)
    (rest : List (Item × Option Text)) :
    assembly.outcome ((.call written, none) :: rest) =
      (assembly.announce written.read).outcome rest :=
  assembly.handedOut_written written proper inside (leading rest) none rest

/-- A call with a summary stands in line itself, and the summary goes to the head
    of the line. -/
theorem outcome_answered (assembly : Assembly) (written : WrittenCall) (proper : written.Proper)
    (inside : assembly.Inside)
    (captured : capturesResult written.tool = true) (summary : Text)
    (rest : List (Item × Option Text)) :
    assembly.outcome ((.call written, some summary) :: rest) =
      ((assembly.announce written.read).resolve summary).outcome rest := by
  have joined := assembly.handedOut_written written proper inside (summary :: leading rest)
    (some summary) rest
  refine Eq.trans joined ?_
  have someone : (assembly.announce written.read).pending ≠ [] := by
    simp [announce_written assembly written proper, captured]
  obtain ⟨place, later, line⟩ := List.exists_cons_of_ne_nil someone
  rw [resolve_eq _ summary place later line, line, handedOut]
  rfl

/-- What a step and a summary come to alike, they come to alike with all items
    behind. -/
theorem outcome_step [NestingLimits] (assembly next : Assembly) (entry : Item × Option Text)
    (items : List Item) (alike : ∀ rest, assembly.outcome (entry :: rest) = next.outcome rest) :
    (do return entry :: (← items.mapM Item.summarized)).map assembly.outcome =
      (items.mapM Item.summarized).map next.outcome := by
  cases items.mapM Item.summarized with
  | error reason => rfl
  | ok rest => exact congrArg Except.ok (alike rest)

/-- The steps of items come to what their summaries make of them. The induction is on the
    items, and a summary that fails fails both. -/
theorem tell_items [NestingLimits] (items : List Item) (assembly : Assembly)
    (proper : ∀ item ∈ items, item.Proper) (inside : assembly.Inside) :
    (items.foldlM tell assembly).map (·.events) =
      (items.mapM Item.summarized).map assembly.outcome := by
  induction items generalizing assembly with
  | nil => exact congrArg Except.ok assembly.outcome_nil.symm
  | cons item items inductionHypothesis =>
    have others := fun next member => proper next (List.mem_cons_of_mem item member)
    rw [List.foldlM_cons, List.mapM_cons]
    cases isCall : item.isCall with
    | false =>
      have abandoned : (assembly.emit (item.event none)).pending = [] :=
        if_neg (item.kind_other isCall none)
      have further := inductionHypothesis (assembly.emit (item.event none)) others
        (by simp [Inside, abandoned])
      rw [assembly.tell_other item isCall, item.summarized_other isCall]
      exact further.trans (assembly.outcome_step _ _ items
        fun rest => assembly.outcome_other item rest isCall).symm
    | true =>
      obtain ⟨written, rfl⟩ := item.exists_of_isCall isCall
      have writtenProper : written.Proper := proper (.call written) List.mem_cons_self
      have announcedInside := assembly.announce_inside written writtenProper inside
      rcases assembly.tell_call written with
        ⟨announced, unanswered⟩ | ⟨closed, captured, answered, summed⟩
      · have further := inductionHypothesis (assembly.announce written.read) others
          announcedInside
        rw [announced, unanswered]
        exact further.trans (assembly.outcome_step _ _ items
          fun rest => assembly.outcome_call written writtenProper inside rest).symm
      · rw [answered, summed]
        cases Summary.ofBlock closed.block with
        | error reason => rfl
        | ok summary =>
          have further := inductionHypothesis
            ((assembly.announce written.read).resolve summary) others
            ((assembly.announce written.read).resolve_inside summary announcedInside)
          exact further.trans (assembly.outcome_step _ _ items fun rest =>
            assembly.outcome_answered written writtenProper inside captured summary rest).symm

end Assembly

/-- A call has a summary exactly if it is captured, as long as a captured call has
    a block. -/
theorem Item.isSome_of_summarized [NestingLimits] (written : WrittenCall) (summary : Option Text)
    (done : (Item.call written).summarized = .ok (.call written, summary))
    (own : capturesResult written.tool = true → (written.block?).isSome = true) :
    summary.isSome = capturesResult written.tool := by
  obtain ⟨_, summed, same⟩ := ok_of_map _ _ _ done
  cases same
  unfold summary? at summed
  cases captured : capturesResult written.tool with
  | true =>
    obtain ⟨closed, block⟩ := Option.isSome_iff_exists.mp (own captured)
    simp only [block, captured, if_true] at summed
    obtain ⟨text, _, rfl⟩ := ok_of_map _ _ summary summed
    rfl
  | false =>
    simp only [captured, Bool.false_eq_true, if_false] at summed
    split at summed <;> cases summed <;> rfl

/-- Whatever is summarized is the summary of an item. -/
theorem summarized_of_mem [NestingLimits] (items : List Item)
    (summarized : List (Item × Option Text)) (done : items.mapM Item.summarized = .ok summarized) :
    ∀ entry ∈ summarized, entry.1 ∈ items ∧ entry.1.summarized = .ok entry := by
  induction items generalizing summarized with
  | nil =>
    cases done
    simp
  | cons item items inductionHypothesis =>
    rw [List.mapM_cons] at done
    obtain ⟨head, first, behind⟩ := ok_of_bind _ _ summarized done
    obtain ⟨rest, others, together⟩ := ok_of_bind _ _ summarized behind
    cases together
    have same : head.1 = item := item.summarized_fst head first
    intro entry member
    rcases List.mem_cons.mp member with rfl | later
    · rw [same]
      exact ⟨List.mem_cons_self, first⟩
    · obtain ⟨among, summed⟩ := inductionHypothesis rest others entry later
      exact ⟨List.mem_cons_of_mem item among, summed⟩

/-- Where a call has a summary exactly if it is captured, every call is answered
    by its own. -/
theorem told_own (summarized : List (Item × Option Text))
    (own : ∀ written summary, (Item.call written, summary) ∈ summarized →
      summary.isSome = capturesResult written.tool) :
    told summarized =
      summarized.map fun entry => entry.1.event (Text.present? entry.2) := by
  unfold told
  induction summarized with
  | nil => rfl
  | cons entry rest inductionHypothesis =>
    obtain ⟨item, summary⟩ := entry
    have others := inductionHypothesis fun written summary member =>
      own written summary (List.mem_cons_of_mem _ member)
    cases isCall : item.isCall with
    | false =>
      rw [leading_other item summary rest isCall, toldFrom_other item summary rest [] isCall,
        others, List.map_cons, item.event_other isCall (Text.present? summary)]
    | true =>
      obtain ⟨written, rfl⟩ := item.exists_of_isCall isCall
      have answered := own written summary List.mem_cons_self
      cases summary with
      | none =>
        have ignored : ¬capturesResult written.tool = true := by simp [← answered]
        rw [leading, Option.toList_none, List.nil_append, toldFrom, if_neg ignored, others]
        rfl
      | some summary =>
        have captured : capturesResult written.tool = true := by simp [← answered]
        rw [leading, Option.toList_some, List.singleton_append, toldFrom, if_pos captured,
          List.tail_cons, others]
        rfl

/-- What is written is what is told.

The log of a written sequence of items is assembled to the items' events with
nothing left out and nothing added. A block of a capturing call answers the first
such call in its row that is still unanswered; where every capturing call has a
block, that is the call itself. If a block has no summary to give, there is no
assembly, and the first such block tells why. -/
theorem written_items_are_told [NestingLimits] (items : List Item) (written : Written items) :
    let log := Text.unlines (items.flatMap Item.lines)
    Assembly.ofLines log.lines = (items.mapM Item.summarized).map told ∧
      ((∀ call, Item.call call ∈ items → capturesResult call.tool = true →
          (call.block?).isSome = true) →
        Assembly.ofLines log.lines = (items.mapM Item.summarized).map
          (List.map fun entry => entry.1.event (Text.present? entry.2))) := by
  intro log
  have assembled : Assembly.ofLines log.lines = (items.mapM Item.summarized).map told := by
    cases items with
    | nil => rfl
    | cons item more =>
      obtain ⟨first, below, begins, _⟩ := item.lines_cons (written.proper item (by simp))
      have someLine : (item :: more).flatMap Item.lines ≠ [] := by simp [begins]
      have unbroken : ∀ line ∈ (item :: more).flatMap Item.lines,
          CodePoint.char '\n' ∉ line := by
        intro line member
        obtain ⟨owner, among, inside⟩ := List.mem_flatMap.mp member
        exact written.unbroken owner among line inside
      rw [Text.lines_unlines _ someLine unbroken, Assembly.ofLines_eq_read,
        Assembly.read_items {} _ written.proper written.placed rfl rfl,
        Assembly.tell_items _ {} written.proper (by simp [Assembly.Inside])]
      rfl
  refine ⟨assembled, fun own => ?_⟩
  rw [assembled]
  cases done : items.mapM Item.summarized with
  | error reason => rfl
  | ok summarized =>
    refine congrArg Except.ok (told_own summarized ?_)
    intro call summary member
    obtain ⟨among, summed⟩ := summarized_of_mem items summarized done _ member
    exact Item.isSome_of_summarized call summary summed (own call among)

namespace SmallTranscript

/-- A search without a block, and a stored memory below it. -/
def search : WrittenCall where
  tool := "memory_search"
  extension := "memory"
  params := [("query", "users")]

/-- The memory's block answers the search. -/
def store : WrittenCall where
  tool := "memory_add"
  extension := "memory"
  rule := 2
  output := ["saving", "saved"]
  block? := some ClosedBlock.stored

/-- One item of each kind, and a thought where it can stand. -/
def items : List Item :=
  [.run "App" "1-a", .session "local" "small one" ["  working directory: /repo"],
    .thought ["Look up the users.", "Then go on."], .call search, .call store,
    .thought ["Done."], .command "git push" ["ok"]]

/-- The search keeps to the shapes of its lines. -/
theorem search_proper : search.Proper where
  tool := ⟨by decide, by decide⟩
  extension := ⟨by decide, by decide⟩
  keys := by simp only [search, List.forall_mem_singleton]; exact ⟨by decide, by decide⟩
  values := by simp only [search, List.forall_mem_singleton]; exact ⟨by decide, by decide⟩
  loud := by decide
  distinct := by decide
  output := ⟨by decide, by decide⟩
  apart := by simp [search]

/-- The store keeps to the shapes of its lines. -/
theorem store_proper : store.Proper where
  tool := ⟨by decide, by decide⟩
  extension := ⟨by decide, by decide⟩
  keys := by simp [store]
  values := by simp [store]
  loud := by decide
  distinct := by decide
  output := ⟨by decide +kernel, by decide +kernel⟩
  apart := by
    intro line first
    cases first
    decide

/-- The items keep to the shapes of their lines, and the thought stands where it can. -/
theorem items_written : Written items where
  proper := by
    intro item member
    simp only [items, List.mem_cons, List.not_mem_nil, or_false] at member
    rcases member with rfl | rfl | rfl | rfl | rfl | rfl | rfl
    · exact ⟨⟨by decide, by decide +kernel⟩, ⟨by decide, by decide +kernel⟩, by decide⟩
    · exact ⟨⟨by decide, by decide⟩, ⟨by decide, by decide⟩, by decide, by decide⟩
    · exact ⟨by decide, ⟨by decide +kernel, by decide +kernel⟩, by decide, by decide +kernel⟩
    · exact search_proper
    · exact store_proper
    · exact ⟨by decide, ⟨by decide +kernel, by decide +kernel⟩, by decide, by decide +kernel⟩
    · exact ⟨⟨by decide, by decide⟩, by decide, ⟨by decide +kernel, by decide +kernel⟩⟩
  unbroken := by decide +kernel
  placed := by decide

/-- The kinds, contents and results of its events. -/
def events : List (EventKind × Text × Option Text) :=
  [(.info, "App run 1-a", none),
    (.sessionStart, "Session started with local / small one", none),
    (.agentThinking, "Look up the users.\nThen go on.", none),
    (.toolCall, "memory_search: users", some ("stored" : Text)),
    (.toolCall, "memory_add\nsaving\nsaved", none),
    (.agentThinking, "Done.", none),
    (.phaseMarker, "$ git push\nok", none)]

end SmallTranscript

/-- The small transcript is told as it is written. -/
theorem small_transcript_is_told :
    let log := Text.unlines (SmallTranscript.items.flatMap Item.lines)
    (Assembly.ofLines log.lines).toOption.map
        (List.map fun event => (event.kind, event.content, event.result)) =
      some SmallTranscript.events := by
  intro log
  rw [(written_items_are_told SmallTranscript.items SmallTranscript.items_written).1]
  decide +kernel

end AgentRuns
