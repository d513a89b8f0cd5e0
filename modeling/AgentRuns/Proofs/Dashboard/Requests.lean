import AgentRuns.Proofs.Dashboard.Tasks

/-!
# Requests

A request to the dashboard or to its store is a task, and a task ends with what the
dashboard and the store say in one piece. So what a request is answered and the site
behind it depend on the site before it alone, and a request that fails leaves the site
as it was: the runs are saved in the last step, after everything that can fail.
-/

namespace AgentRuns

/-- A request to the dashboard, or an operation asked of the store. -/
inductive Request
  | store (operation : Store.Operation)
  | runs (limit : Option Text)
  | run (written : Text)
  | logTail (written : Text) (lines : Option Text)
  | events (milliseconds : Binary64) (written : Text)
  | giveFeedback (written : Text) (feedback : FeedbackRequest) (now : Text)
  | chain (written : Text)

/-- What a request that succeeds is answered with. -/
inductive Response
  | stored (answer : Store.Answer)
  | runs (runs : List Run)
  | run (run : Run)
  | logTail (tail : Dashboard.LogTail)
  | events (events : Dashboard.RunEvents)

namespace Ending

/-- The result or the error that a task ends with. -/
def outcome {α : Type} : Ending α → Except RequestError α
  | .ok value _ => .ok value
  | .error reason _ => .error reason

/-- The world that a task leaves. -/
def world {α : Type} : Ending α → World
  | .ok _ after => after
  | .error _ after => after

/-- A task ends with the outcome, and leaves the site. -/
structure ComesTo {α : Type} (ending : Ending α) (outcome : Except RequestError α)
    (site : Site) : Prop where
  outcome : Ending.outcome ending = outcome
  site : (Ending.world ending).site = site

end Ending

namespace Request

section

variable [NestingLimits]

/-- The steps of a request. -/
def task : Request → Task Response
  | .store operation => .stored <$> Task.operation operation
  | .runs limit => .runs <$> Task.runs limit
  | .run written => .run <$> Task.resolve written
  | .logTail written lines => .logTail <$> Task.logTail written lines
  | .events milliseconds written => .events <$> Task.events milliseconds written
  | .giveFeedback written feedback now => .run <$> Task.giveFeedback written feedback now
  | .chain written => .runs <$> Task.chain written

/-- What the store makes of an operation. -/
def stored (site : Site) (operation : Store.Operation) :
    Except RequestError (Store.Change Store.Answer) :=
  (operation.perform site.document).mapError .store

/-- What the dashboard and the store say to a request. -/
def outcome (site : Site) : Request → Except RequestError Response
  | .store operation => (stored site operation).map fun change => .stored change.result
  | .runs limit => (Dashboard.runs site limit).map .runs
  | .run written => (Dashboard.run site written).map .run
  | .logTail written lines => (Dashboard.logTail site written lines).outcome.map .logTail
  | .events milliseconds written => (Dashboard.events site milliseconds written).outcome.map .events
  | .giveFeedback written feedback now =>
    (Dashboard.giveFeedback site written feedback now).map fun change => .run change.result
  | .chain written => (Dashboard.chain site written).map .runs

/-- The site behind a change, if there is one. -/
def changed {α : Type} (site : Site) : Except RequestError (Store.Change α) → Site
  | .ok change => site.behind change
  | .error _ => site

/-- The site behind a request. Only the store's operations and feedback change it. -/
def behind (site : Site) : Request → Site
  | .store operation => changed site (stored site operation)
  | .giveFeedback written feedback now =>
    changed site (Dashboard.giveFeedback site written feedback now)
  | .runs _ | .run _ | .logTail _ _ | .events _ _ | .chain _ => site

end

/-! ## From the steps to the dashboard -/

section Endings

variable {α : Type} {world : World} {task : Task α} (respond : α → Response)

/-- An answer made of the result of a task changes nothing else of its end. -/
theorem run_map :
    (respond <$> task).run world =
      match task.run world with
      | .ok value after => .ok (respond value) after
      | .error reason after => .error reason after := by
  change EStateM.map respond task world = _
  unfold EStateM.map EStateM.run
  cases task world <;> rfl

/-- A reply is passed on, and the site is left as it was. What was reported on the way is no
    part of the site. -/
theorem comesTo_of_replied (reply : Reply α) (ends : task.run world = world.replied reply) :
    Ending.ComesTo ((respond <$> task).run world) (reply.outcome.map respond) world.site := by
  rw [run_map, ends]
  obtain ⟨_ | _, signals⟩ := reply <;> exact ⟨rfl, rfl⟩

/-- The result of a change is passed on, and the site is the one behind the change. A change
    that fails wrote nothing. -/
theorem comesTo_of_changed (outcome : Except RequestError (Store.Change α))
    (ends : task.run world = world.changed outcome) :
    Ending.ComesTo ((respond <$> task).run world)
      (outcome.map fun change => respond change.result) (changed world.site outcome) := by
  rw [run_map, ends]
  cases outcome <;> exact ⟨rfl, rfl⟩

end Endings

/-- The steps of a request come to what the dashboard and the store say. There is one case for
    each request, and the law of its steps. -/
theorem task_comesTo [NestingLimits] (request : Request) (world : World) :
    Ending.ComesTo (request.task.run world) (request.outcome world.site)
      (request.behind world.site) := by
  cases request with
  | store operation => exact comesTo_of_changed .stored _ (Task.run_operation operation world)
  | runs limit => exact comesTo_of_replied .runs _ (Task.run_runs limit world)
  | run written => exact comesTo_of_replied .run _ (Task.run_resolve written world)
  | logTail written lines =>
    exact comesTo_of_replied .logTail _ (Task.run_logTail written lines world)
  | events milliseconds written =>
    exact comesTo_of_replied .events _ (Task.run_events milliseconds written world)
  | giveFeedback written feedback now =>
    exact comesTo_of_changed .run _ (Task.run_giveFeedback written feedback now world)
  | chain written => exact comesTo_of_replied .runs _ (Task.run_chain written world)

/-- A change that fails leaves the site as it is. Only the steps of a task could have written
    before the failure. -/
theorem changed_of_error {α β : Type} (site : Site)
    (outcome : Except RequestError (Store.Change α)) (respond : Store.Change α → β)
    (reason : RequestError) (fails : outcome.map respond = .error reason) :
    changed site outcome = site := by
  rw [(map_eq_error outcome respond reason).mp fails]
  rfl

variable [NestingLimits]

/-- A request that fails has changed nothing. There is one case for each request. -/
theorem behind_of_error (request : Request) (site : Site) (reason : RequestError)
    (fails : request.outcome site = .error reason) : request.behind site = site := by
  cases request with
  | store operation => exact changed_of_error site _ _ reason fails
  | giveFeedback written feedback now => exact changed_of_error site _ _ reason fails
  | runs _ | run _ | logTail _ _ | events _ _ | chain _ => rfl

/-- The site behind steps that fail is the site before them. The steps come to the outcome,
    and the outcome says so. -/
theorem site_of_error (request : Request) (reason : RequestError) (world after : World)
    (fails : request.task.run world = .error reason after) : after.site = world.site := by
  have ends := request.task_comesTo world
  rw [fails] at ends
  exact ends.site.trans (request.behind_of_error world.site reason ends.outcome.symm)

/-! ## One request after the other -/

/-- What requests are answered one after the other. -/
def answers : List Request → World → List (Except RequestError Response)
  | [], _ => []
  | request :: later, world =>
    let ending := request.task.run world
    Ending.outcome ending :: answers later (Ending.world ending)

/-- Answers depend on the site and not on what was reported. The induction is on the requests,
    as each of them leaves a site behind. -/
theorem answers_congr (later : List Request) (world other : World)
    (same : world.site = other.site) : answers later world = answers later other := by
  induction later generalizing world other with
  | nil => rfl
  | cons request later inductionHypothesis =>
    have here := request.task_comesTo world
    have there := request.task_comesTo other
    have outcomes : Ending.outcome (request.task.run world) =
        Ending.outcome (request.task.run other) := by
      rw [here.outcome, there.outcome, same]
    have sites : (Ending.world (request.task.run world)).site =
        (Ending.world (request.task.run other)).site := by
      rw [here.site, there.site, same]
    rw [answers, answers, outcomes, inductionHypothesis _ _ sites]

end Request

end AgentRuns
