import AgentRuns.Dashboard
import AgentRuns.Proofs.Store.Transitions

/-!
# Requests in steps

A request is worked off in steps: the runs are loaded, looked through and checked,
and somewhere on the way all of them are saved. A step that fails ends the request
and undoes nothing, so whatever was saved before it stays saved. Here the steps are
written down one after the other, and what they come to is proved to be what the
dashboard and the store say in one piece.

All that a request can change is the site and the list of what was reported.
-/

namespace AgentRuns

/-- A site, and what has been reported there. -/
structure World where
  site : Site
  reported : List Signal := []

/-- Steps on a world. A failure leaves the world as the steps before it left it. -/
abbrev Task := EStateM RequestError World

/-- Where a task ends. -/
abbrev Ending := EStateM.Result RequestError World

namespace Task

/-! ## Steps -/

variable [NestingLimits]

/-- The runs that the storage file holds now, unless it nests too deeply. -/
def load : Task (List Run) := do
  match Store.load (← get).site.document with
  | .ok runs => return runs
  | .error reason => throw (.store reason)

/-- All runs written to the storage file. -/
def save (runs : List Run) : Task Unit :=
  match Store.save runs with
  | .ok document => modify fun world =>
      { world with site := world.site.behind (⟨(), document⟩ : Store.Change Unit) }
  | .error reason => throw (.store reason)

/-- Signals reported. -/
def report (signals : List Signal) : Task Unit :=
  modify fun world => { world with reported := world.reported ++ signals }

/-- A run with fields given anew, if all of them are valid. -/
def amend (changes : Table Json) (run : Run) : Task Run :=
  match Store.amend changes run with
  | .ok amended => return amended
  | .error reason => throw (.store reason)

/-! ## The store -/

/-- An empty document saved, if there is none yet. Nothing is loaded for it. -/
def setUp : Task Unit := do
  if (← get).site.document.isNone then save []

/-- A run appended to those that are loaded, and all of them saved. -/
def create (defaultPrefix : Text) (creation : Store.Creation) : Task Run := do
  let runs ← load
  let run := creation.run defaultPrefix runs
  save (runs ++ [run])
  return run

/-- The search for the first run of an id behind those that were passed. The run that
    is found is amended, and the whole list is saved. -/
def updateFrom (id : Text) (changes : Table Json) (passed : List Run) : List Run → Task Run
  | [] => throw (.store (.unknownRun id))
  | run :: rest =>
    if run.id = id then do
      let amended ← amend changes run
      save (passed ++ amended :: rest)
      return amended
    else updateFrom id changes (passed ++ [run]) rest

/-- The search among all runs that are loaded. -/
def update (id : Text) (changes : Table Json) : Task Run := do
  updateFrom id changes [] (← load)

/-- Feedback is one of the fields that can be given anew. -/
def saveFeedback (id : Text) (feedback : Feedback) : Task Run :=
  update id [("feedback", feedback.toJson)]

/-- The unfinished runs changed in their places, and saved if there are any. -/
def changeUnfinished (change : Nat → Run → Run) : Task (List Run) := do
  let runs ← load
  let changed := Store.changedRuns change runs
  if !changed.isEmpty then save (Store.withUnfinished change runs)
  return changed

/-- The run that someone named in writing, looked for among the runs that are loaded
    unless nothing is left of the name. -/
def search (written : Text) : Task (Option Run) := do
  if (Identifier.key written).isEmpty then return none
  return Store.find? (← load) written

/-- The steps of a question. -/
def ask : Store.Question → Task Store.Answer
  | .find written => return .found (← search written)
  | question => return question.answer (← load)

/-- The steps of an operation on the store. -/
def operation : Store.Operation → Task Store.Answer
  | .setUp => do setUp; return .nothing
  | .create defaultPrefix creation => return .run (← create defaultPrefix creation)
  | .update id changes => return .run (← update id changes)
  | .saveFeedback id feedback => return .run (← saveFeedback id feedback)
  | .failUnfinished reason clock =>
    return .count (← changeUnfinished (Store.givenUp reason clock)).length
  | .requeueUnfinished reason =>
    return .runs (← changeUnfinished fun _ => Store.requeued reason)
  | .ask question => ask question

/-! ## The dashboard -/

/-- The run that someone named in writing, if there is exactly one. -/
def resolve (written : Text) : Task Run := do
  match ← search written with
  | some run => return run
  | none => throw (.unknownRun written)

/-- The newest runs of those that are loaded. -/
def runs (limit : Option Text) : Task (List Run) := do
  return Store.newest (← load) (Dashboard.limit limit)

/-- The text of a run's log, none if it cannot be read. -/
def log (run : Run) : Task (Option Text) := do
  match (← get).site.log run with
  | .ok log => return log
  | .error reason => throw (.path reason)

/-- A log that cannot be read is answered as an empty one, and reported. -/
def logTail (written : Text) (lines : Option Text) : Task Dashboard.LogTail := do
  let run ← resolve written
  let count := Dashboard.limit lines
  match ← log run with
  | some log => return ⟨run.id, count, Log.tail count log⟩
  | none =>
    report [.readFailed "log"]
    return ⟨run.id, count, []⟩

/-- A log is parsed anew. What is reported of the parse is reported before its failure. -/
def events (milliseconds : Binary64) (written : Text) : Task Dashboard.RunEvents := do
  let run ← resolve written
  match ← log run with
  | none =>
    report [.readFailed "events"]
    return ⟨run.id, [], {}⟩
  | some log =>
    let parsed := Transcript.events log
    report (Dashboard.parseSignals log milliseconds parsed)
    match parsed with
    | .ok events => return ⟨run.id, events, .ofEvents events⟩
    | .error reason => throw (.summary reason)

/-- The rating is checked once the run is found. A run that is gone by the time of the
    saving is unknown under the name that was written. -/
def giveFeedback (written : Text) (request : FeedbackRequest) (now : Text) : Task Run := do
  let run ← resolve written
  match Dashboard.feedback? request now with
  | none => throw .unknownRating
  | some feedback =>
    tryCatch (saveFeedback run.id feedback) fun
      | .store (.unknownRun _) => throw (.unknownRun written)
      | reason => throw reason

/-- The runs are loaded once to find the run, and once more for its thread. -/
def chain (written : Text) : Task (List Run) := do
  let run ← resolve written
  return Store.chain (← load) run.channelId run.threadTs

end Task

/-! ## What the steps come to -/

namespace World

/-- The end of a change: its result and the site behind it, or its error and the world
    as it was. -/
def changed {α : Type} (world : World) : Except RequestError (Store.Change α) → Ending α
  | .ok change => .ok change.result { world with site := world.site.behind change }
  | .error reason => .error reason world

/-- The end of a change of the store. -/
def stored {α : Type} (world : World) (outcome : Store.Outcome α) : Ending α :=
  world.changed (outcome.mapError .store)

/-- The end of a reply that leaves the site as it is. -/
def replied {α : Type} (world : World) (reply : Reply α) : Ending α :=
  match reply.outcome with
  | .ok value => .ok value { world with reported := world.reported ++ reply.signals }
  | .error reason => .error reason { world with reported := world.reported ++ reply.signals }

/-- A reply that reports nothing leaves the world as it is. -/
theorem replied_silent {α : Type} (world : World) (outcome : Except RequestError α) :
    world.replied ⟨outcome, []⟩ =
      match outcome with
      | .ok value => .ok value world
      | .error reason => .error reason world := by
  cases outcome <;> simp [replied]

end World

namespace Task

/-- Loading leaves the world as it is, whether it succeeds or not. -/
theorem run_load [NestingLimits] (world : World) :
    load.run world = world.replied ⟨Dashboard.loaded world.site, []⟩ := by
  rw [load, EStateM.run_bind, EStateM.run_get, World.replied_silent, Dashboard.loaded]
  dsimp only
  cases Store.load world.site.document <;> rfl

/-- Saving ends as the store does that saves the runs. The site has the written document where
    the saving succeeds. -/
theorem run_save (runs : List Run) (world : World) :
    (save runs).run world =
      world.stored ((Store.save runs).map fun document => ⟨(), document⟩) := by
  unfold save
  cases Store.save runs <;> rfl

/-- What is loaded first decides how a task goes on, and a document that nests too
    deeply ends it. -/
theorem run_load_bind [NestingLimits] {α : Type} (next : List Run → Task α) (world : World) :
    (load >>= next).run world =
      match Store.load world.site.document with
      | .ok runs => (next runs).run world
      | .error reason => .error (.store reason) world := by
  rw [EStateM.run_bind, run_load, World.replied_silent, Dashboard.loaded]
  cases Store.load world.site.document <;> rfl

/-- The run is created and saved as the store does it. Its place is found among the runs that
    were loaded. -/
theorem run_create [NestingLimits] (defaultPrefix : Text) (creation : Store.Creation)
    (world : World) :
    (create defaultPrefix creation).run world =
      world.stored (Store.create defaultPrefix creation world.site.document) := by
  rw [create, run_load_bind, Store.create]
  cases Store.load world.site.document with
  | error reason => rfl
  | ok runs =>
    dsimp only [Except.bind]
    rw [EStateM.run_bind, run_save]
    cases Store.save (runs ++ [creation.run defaultPrefix runs]) <;> rfl

/-- Amending a run needs nothing of the world. It ends as the amending of the store does. -/
theorem run_amend (changes : Table Json) (run : Run) (world : World) :
    (amend changes run).run world =
      match Store.amend changes run with
      | .ok amended => .ok amended world
      | .error reason => .error (.store reason) world := by
  unfold amend
  cases Store.amend changes run <;> rfl

/-- The search goes on as the amending of the first run of the id does, and what it
    saves has the runs that were passed in front. -/
theorem run_updateFrom (id : Text) (changes : Table Json) (passed rest : List Run) (world : World) :
    (updateFrom id changes passed rest).run world =
      world.stored (match Store.amendFirst id changes rest with
        | .ok (amended, others) =>
          (Store.save (passed ++ others)).map fun document => ⟨amended, document⟩
        | .error reason => .error reason) := by
  induction rest generalizing passed with
  | nil => rfl
  | cons run rest inductionHypothesis =>
    rw [updateFrom, Store.amendFirst]
    by_cases here : run.id = id
    · rw [if_pos here, if_pos here, EStateM.run_bind, run_amend]
      cases Store.amend changes run with
      | error reason => rfl
      | ok amended =>
        dsimp only [Except.map]
        rw [EStateM.run_bind, run_save]
        cases Store.save (passed ++ amended :: rest) <;> rfl
    · rw [if_neg here, if_neg here, inductionHypothesis]
      cases Store.amendFirst id changes rest with
      | error reason => rfl
      | ok found =>
        simp only [Except.map, List.append_assoc, List.singleton_append]

/-- The search begins with the whole list, so that nothing was passed before it. It stops at
    the first run of the id. -/
theorem run_update [NestingLimits] (id : Text) (changes : Table Json) (world : World) :
    (update id changes).run world =
      world.stored (Store.update id changes world.site.document) := by
  rw [update, run_load_bind, Store.update]
  cases Store.load world.site.document with
  | error reason => rfl
  | ok runs =>
    dsimp only [Except.bind]
    rw [run_updateFrom]
    cases Store.amendFirst id changes runs <;> rfl

/-- Saving feedback is an update of one field. -/
theorem run_saveFeedback [NestingLimits] (id : Text) (feedback : Feedback) (world : World) :
    (saveFeedback id feedback).run world =
      world.stored (Store.saveFeedback id feedback world.site.document) :=
  run_update id _ world

/-- Setting up saves a list without runs, or it does nothing. A file that is there is left
    alone, whatever it holds. -/
theorem run_setUp (world : World) :
    setUp.run world = world.stored (.ok (Store.setUp world.site.document)) := by
  change (if world.site.document.isNone = true then save [] else pure ()).run world = _
  unfold Store.setUp
  cases world.site.document with
  | none => exact run_save [] world
  | some content => rfl

section

variable [NestingLimits]

/-- Unfinished runs that keep their places can be saved, since all places were read. The walk
    over the list ends before anything is written. -/
theorem run_changeUnfinished (change : Nat → Run → Run) (world : World)
    (keepsPlace : ∀ place run, (change place run).chainIndex = run.chainIndex) :
    (changeUnfinished change).run world =
      world.stored ((Store.load world.site.document).map (Store.changeUnfinished change)) := by
  rw [changeUnfinished, run_load_bind]
  cases loaded : Store.load world.site.document with
  | error reason => rfl
  | ok runs =>
    obtain ⟨_, rfl⟩ := (Store.load_eq_ok _ runs).mp loaded
    have saved := Store.save_withUnfinished change world.site.document keepsPlace
    simp only [Except.map, Store.changeUnfinished]
    cases (Store.changedRuns change world.site.document.runs).isEmpty with
    | true => rfl
    | false =>
      rw [if_pos (Bool.not_false), EStateM.run_bind, run_save, saved]
      rfl

/-- A search ends as that of the store. It reports nothing. -/
theorem run_search (written : Text) (world : World) :
    (search written).run world =
      world.replied ⟨(Store.search written world.site.document).mapError .store, []⟩ := by
  rw [World.replied_silent, search, Store.search]
  split
  · rfl
  · change (load >>= fun runs => pure (Store.find? runs written)).run world = _
    rw [run_load_bind]
    cases Store.load world.site.document <;> rfl

/-- A question ends as that to the store. It reports nothing. -/
theorem run_ask (question : Store.Question) (world : World) :
    (ask question).run world =
      world.replied ⟨(question.ask world.site.document).mapError .store, []⟩ := by
  rw [World.replied_silent]
  cases question with
  | find written =>
    rw [ask, EStateM.run_bind, run_search, World.replied_silent, Store.Question.ask]
    cases Store.search written world.site.document <;> rfl
  | get | newest | latestOfThread | latestOfChannel | chain =>
    simp only [ask, Store.Question.ask]
    rw [run_load_bind]
    cases Store.load world.site.document <;> rfl

/-- The steps of an operation come to the operation. There is one case for each operation. -/
theorem run_operation (asked : Store.Operation) (world : World) :
    (operation asked).run world = world.stored (asked.perform world.site.document) := by
  cases asked with
  | setUp =>
    rw [operation, EStateM.run_bind, run_setUp]
    rfl
  | create defaultPrefix creation =>
    rw [operation, EStateM.run_bind, run_create, Store.Operation.perform]
    cases Store.create defaultPrefix creation world.site.document <;> rfl
  | update id changes =>
    rw [operation, EStateM.run_bind, run_update, Store.Operation.perform]
    cases Store.update id changes world.site.document <;> rfl
  | saveFeedback id feedback =>
    rw [operation, EStateM.run_bind, run_saveFeedback, Store.Operation.perform]
    cases Store.saveFeedback id feedback world.site.document <;> rfl
  | failUnfinished reason clock =>
    rw [operation, EStateM.run_bind,
      run_changeUnfinished (Store.givenUp reason clock) world fun _ _ => rfl,
      Store.Operation.perform, Store.failUnfinished]
    cases Store.load world.site.document <;> rfl
  | requeueUnfinished reason =>
    rw [operation, EStateM.run_bind,
      run_changeUnfinished (fun _ => Store.requeued reason) world fun _ _ => rfl,
      Store.Operation.perform, Store.requeueUnfinished]
    cases Store.load world.site.document <;> rfl
  | ask question =>
    rw [operation, run_ask, World.replied_silent, Store.Operation.perform]
    cases question.ask world.site.document <;> rfl

/-- The run that a request names is the one that the dashboard finds. A name without a run
    ends the task. -/
theorem run_resolve (written : Text) (world : World) :
    (resolve written).run world = world.replied ⟨Dashboard.run world.site written, []⟩ := by
  rw [resolve, EStateM.run_bind, run_search, World.replied_silent, World.replied_silent,
    Dashboard.run]
  rcases Store.search written world.site.document with _ | _ | _ <;> rfl

/-- The newest runs are those that the dashboard lists. -/
theorem run_runs (limit : Option Text) (world : World) :
    (runs limit).run world = world.replied ⟨Dashboard.runs world.site limit, []⟩ := by
  rw [runs, run_load_bind, World.replied_silent, Dashboard.runs, Dashboard.loaded]
  cases Store.load world.site.document <;> rfl

end

/-- Reading a log changes nothing, and a malformed path ends the task. -/
theorem run_log (run : Run) (world : World) :
    (log run).run world =
      match world.site.log run with
      | .ok log => .ok log world
      | .error reason => .error (.path reason) world := by
  rw [log, EStateM.run_bind, EStateM.run_get]
  dsimp only
  cases world.site.log run <;> rfl

/-- The steps to the tail of a log come to the reply of the dashboard. The run is found first,
    and then its log is read. -/
theorem run_logTail [NestingLimits] (written : Text) (lines : Option Text) (world : World) :
    (logTail written lines).run world =
      world.replied (Dashboard.logTail world.site written lines) := by
  rw [logTail, EStateM.run_bind, run_resolve, World.replied_silent, Dashboard.logTail]
  cases Dashboard.run world.site written with
  | error reason => exact (world.replied_silent (.error reason)).symm
  | ok run =>
    dsimp only
    rw [EStateM.run_bind, run_log]
    rcases world.site.log run with reason | _ | log
    · exact (world.replied_silent (.error (.path reason))).symm
    · rfl
    · exact (world.replied_silent (.ok _)).symm

/-- The steps to the events of a run come to the reply of the dashboard. A log that cannot be
    told is reported as such before the task ends. -/
theorem run_events [NestingLimits] (milliseconds : Binary64) (written : Text) (world : World) :
    (events milliseconds written).run world =
      world.replied (Dashboard.events world.site milliseconds written) := by
  rw [events, EStateM.run_bind, run_resolve, World.replied_silent, Dashboard.events]
  cases Dashboard.run world.site written with
  | error reason => exact (world.replied_silent (.error reason)).symm
  | ok run =>
    dsimp only
    rw [EStateM.run_bind, run_log]
    rcases world.site.log run with reason | _ | log
    · exact (world.replied_silent (.error (.path reason))).symm
    · rfl
    · dsimp only
      cases Transcript.events log <;> rfl

/-- A failure is handled in the world that it left. What was reported before it stays. -/
theorem run_tryCatch {α : Type} (task : Task α) (handle : RequestError → Task α)
    (world : World) :
    (tryCatch task handle).run world =
      match task.run world with
      | .ok value after => .ok value after
      | .error reason after => (handle reason).run after := by
  change EStateM.tryCatch task handle world = _
  unfold EStateM.tryCatch EStateM.run
  cases task world <;> rfl

/-- The steps of giving feedback come to the change of the dashboard. The rating is looked at
    behind the name. -/
theorem run_giveFeedback [NestingLimits] (written : Text) (request : FeedbackRequest) (now : Text)
    (world : World) :
    (giveFeedback written request now).run world =
      world.changed (Dashboard.giveFeedback world.site written request now) := by
  rw [giveFeedback, EStateM.run_bind, run_resolve, World.replied_silent, Dashboard.giveFeedback]
  cases Dashboard.run world.site written with
  | error reason => rfl
  | ok run =>
    dsimp only
    cases Dashboard.feedback? request now with
    | none => rfl
    | some feedback =>
      dsimp only
      rw [run_tryCatch, run_saveFeedback]
      rcases Store.saveFeedback run.id feedback world.site.document with (_ | _ | _ | _) | change
      all_goals rfl

/-- The steps to the thread of a run come to the answer of the dashboard. The thread is that
    of the run that was found. -/
theorem run_chain [NestingLimits] (written : Text) (world : World) :
    (chain written).run world = world.replied ⟨Dashboard.chain world.site written, []⟩ := by
  rw [chain, EStateM.run_bind, run_resolve, World.replied_silent, World.replied_silent,
    Dashboard.chain]
  cases Dashboard.run world.site written with
  | error reason => rfl
  | ok run =>
    dsimp only
    rw [run_load_bind, Dashboard.loaded]
    cases Store.load world.site.document <;> rfl

end Task

end AgentRuns
