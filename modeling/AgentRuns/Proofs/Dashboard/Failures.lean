import AgentRuns.Proofs.Dashboard.Requests
import AgentRuns.Proofs.Store.Refusals

/-!
# Requests that fail

A request fails for a reason that is in the site and in the request itself: the store
refuses an operation, the storage file nests too deeply to be loaded, a name leads to no
run, a rating is unknown, a log's path is malformed or its transcript cannot be shown.
Whatever the storage file holds, a request
that fails leaves it as it was, and whatever is asked later is answered as if the
request had not been made.
-/

namespace AgentRuns.Request

/-- The written name of the run that a request is about. -/
def named? : Request → Option Text
  | .store _ | .runs _ => none
  | .run written | .logTail written _ | .events _ written | .giveFeedback written _ _
  | .chain written => some written

variable [NestingLimits]

/-- Why a request to a site fails. -/
inductive Refuses (site : Site) : Request → RequestError → Prop
  | store (operation : Store.Operation) (reason : StoreError)
    (refuses : operation.Refuses site.document reason) :
    Refuses site (.store operation) (.store reason)
  | unlisted (limit : Option Text) (bracket : Json.Bracket)
    (tooDeep : site.document.load = .error bracket) :
    Refuses site (.runs limit) (.store (.tooDeep bracket))
  | unsearched (request : Request) (written : Text) (named : request.named? = some written)
    (left : Identifier.key written ≠ []) (bracket : Json.Bracket)
    (tooDeep : site.document.load = .error bracket) :
    Refuses site request (.store (.tooDeep bracket))
  | unresolved (request : Request) (written : Text) (named : request.named? = some written)
    (unresolved : Store.Unresolved site.document written) :
    Refuses site request (.unknownRun written)
  | unknownRating (written : Text) (feedback : FeedbackRequest) (now : Text) (run : Run)
    (found : Store.find? site.document.runs written = some run)
    (unknown : Rating.ofName? feedback.rating = none) :
    Refuses site (.giveFeedback written feedback now) .unknownRating
  | logPath (written : Text) (lines : Option Text) (run : Run)
    (found : Store.find? site.document.runs written = some run) (reason : PathError)
    (malformed : site.log run = .error reason) :
    Refuses site (.logTail written lines) (.path reason)
  | eventsPath (milliseconds : Binary64) (written : Text) (run : Run)
    (found : Store.find? site.document.runs written = some run) (reason : PathError)
    (malformed : site.log run = .error reason) :
    Refuses site (.events milliseconds written) (.path reason)
  | summary (milliseconds : Binary64) (written : Text) (run : Run)
    (found : Store.find? site.document.runs written = some run) (log : Text)
    (logged : site.log run = .ok (some log)) (reason : SummaryError)
    (unshown : Transcript.events log = .error reason) :
    Refuses site (.events milliseconds written) (.summary reason)

/-- The dashboard finds the run of a name exactly if the name leads to it among the runs of
    the storage file. -/
theorem run_eq_ok (site : Site) (written : Text) (run : Run) :
    Dashboard.run site written = .ok run ↔ Store.find? site.document.runs written = some run := by
  rw [← Store.search_eq_some]
  unfold Dashboard.run
  rcases Store.search written site.document with _ | _ | _ <;> simp

/-- The dashboard finds no run exactly if the storage file cannot be searched for the name,
    or the name leads to no single run. -/
theorem run_eq_error (site : Site) (written : Text) (reason : RequestError) :
    Dashboard.run site written = .error reason ↔
      (∃ other, Store.search written site.document = .error other ∧ reason = .store other) ∨
        Store.Unresolved site.document written ∧ reason = .unknownRun written := by
  rw [← Store.search_eq_none]
  unfold Dashboard.run
  rcases Store.search written site.document with _ | _ | _ <;> simp [eq_comm]

variable (site : Site) (reason : RequestError)

/-- No request gets past a name that leads to no run. Each request that has a name looks for
    its run first. -/
theorem refuses_of_run (request : Request) (written : Text)
    (named : request.named? = some written)
    (fails : Dashboard.run site written = .error reason) : request.Refuses site reason := by
  rcases (run_eq_error site written reason).mp fails with ⟨other, failed, rfl⟩ | ⟨absent, rfl⟩
  · obtain ⟨left, bracket, tooDeep, rfl⟩ :=
      (Store.search_eq_error site.document written other).mp failed
    exact .unsearched request written named left bracket tooDeep
  · exact .unresolved request written named absent

section Names

variable {site} {written : Text}

/-- The dashboard fails on a name where the storage file nests too deeply to be searched
    for it. -/
theorem run_of_unsearched (left : Identifier.key written ≠ []) {bracket : Json.Bracket}
    (tooDeep : site.document.load = .error bracket) :
    Dashboard.run site written = .error (.store (.tooDeep bracket)) :=
  (run_eq_error site written _).mpr (Or.inl ⟨_,
    (Store.search_eq_error site.document written _).mpr ⟨left, bracket, tooDeep, rfl⟩, rfl⟩)

/-- The dashboard fails on a name that leads to no single run. The name is told as it was
    given. -/
theorem run_of_unresolved (unresolved : Store.Unresolved site.document written) :
    Dashboard.run site written = .error (.unknownRun written) :=
  (run_eq_error site written _).mpr (Or.inr ⟨unresolved, rfl⟩)

end Names

/-- An operation asked of the store fails as the store's own operation does. -/
theorem stored_eq_error (operation : Store.Operation) :
    stored site operation = .error reason ↔ Refuses site (.store operation) reason := by
  rw [stored]
  constructor
  · intro fails
    cases performed : operation.perform site.document with
    | ok change =>
      rw [performed] at fails
      cases fails
    | error other =>
      rw [performed] at fails
      cases fails
      exact .store operation other
        ((Store.Operation.perform_eq_error site.document operation other).mp performed)
  · intro refuses
    cases refuses with
    | store _ other refuses =>
      rw [(Store.Operation.perform_eq_error site.document operation other).mpr refuses]
      rfl
    | unsearched _ _ named | unresolved _ _ named => cases named

/-- The tail of a log fails with its name, or with its log's path. A log that is missing is no
    failure. -/
theorem logTail_eq_error (written : Text) (lines : Option Text) :
    (Dashboard.logTail site written lines).outcome = .error reason ↔
      Refuses site (.logTail written lines) reason := by
  constructor
  · intro fails
    cases resolved : Dashboard.run site written with
    | error other =>
      simp only [Dashboard.logTail, resolved] at fails
      cases fails
      exact refuses_of_run site reason _ written rfl resolved
    | ok run =>
      have found := (run_eq_ok site written run).mp resolved
      rcases logged : site.log run with other | _ | log
      all_goals
        simp only [Dashboard.logTail, resolved, logged] at fails
        cases fails
      exact .logPath written lines run found other logged
  · intro refuses
    cases refuses with
    | unsearched _ _ named left bracket tooDeep =>
      cases named
      simp only [Dashboard.logTail, run_of_unsearched left tooDeep]
    | unresolved _ _ named absent =>
      cases named
      simp only [Dashboard.logTail, run_of_unresolved absent]
    | logPath _ _ run found other malformed =>
      simp only [Dashboard.logTail, (run_eq_ok site written run).mpr found, malformed]

/-- The events of a run fail with its name, with its log's path, or with a block of the log
    that cannot be shown. -/
theorem events_eq_error (milliseconds : Binary64) (written : Text) :
    (Dashboard.events site milliseconds written).outcome = .error reason ↔
      Refuses site (.events milliseconds written) reason := by
  constructor
  · intro fails
    cases resolved : Dashboard.run site written with
    | error other =>
      simp only [Dashboard.events, resolved] at fails
      cases fails
      exact refuses_of_run site reason _ written rfl resolved
    | ok run =>
      have found := (run_eq_ok site written run).mp resolved
      rcases logged : site.log run with other | _ | log
      · simp only [Dashboard.events, resolved, logged] at fails
        cases fails
        exact .eventsPath milliseconds written run found other logged
      · simp only [Dashboard.events, resolved, logged] at fails
        cases fails
      · cases parsed : Transcript.events log with
        | error other =>
          simp only [Dashboard.events, resolved, logged, parsed] at fails
          cases fails
          exact .summary milliseconds written run found log logged other parsed
        | ok events =>
          simp only [Dashboard.events, resolved, logged, parsed] at fails
          cases fails
  · intro refuses
    cases refuses with
    | unsearched _ _ named left bracket tooDeep =>
      cases named
      simp only [Dashboard.events, run_of_unsearched left tooDeep]
    | unresolved _ _ named absent =>
      cases named
      simp only [Dashboard.events, run_of_unresolved absent]
    | eventsPath _ _ run found other malformed =>
      simp only [Dashboard.events, (run_eq_ok site written run).mpr found, malformed]
    | summary _ _ run found log logged other unshown =>
      simp only [Dashboard.events, (run_eq_ok site written run).mpr found, logged, unshown]

/-- Feedback with a known rating for a run that was found is always saved. So none of its
    three ways to fail is left. -/
theorem giveFeedback_eq_ok (written : Text) (request : FeedbackRequest) (now : Text) (run : Run)
    (found : Store.find? site.document.runs written = some run) (feedback : Feedback)
    (known : Dashboard.feedback? request now = some feedback) :
    ∃ change, Dashboard.giveFeedback site written request now = .ok change := by
  have stored := Store.mem_of_find? site.document.runs written run found
  rcases Store.splits_or_absent run.id site.document.runs with
    ⟨before, first, behind, splits⟩ | absent
  · obtain ⟨change, saved⟩ := Store.saveFeedback_of_splits splits feedback
    refine ⟨change, ?_⟩
    simp only [Dashboard.giveFeedback, (run_eq_ok site written run).mpr found, known, saved]
  · exact absurd rfl (absent run stored)

/-- Feedback fails with its run's name or with its rating, and never once both are known. The
    name is looked at first. -/
theorem giveFeedback_eq_error (written : Text) (request : FeedbackRequest) (now : Text) :
    Dashboard.giveFeedback site written request now = .error reason ↔
      Refuses site (.giveFeedback written request now) reason := by
  have unknown : Dashboard.feedback? request now = none ↔ Rating.ofName? request.rating = none :=
    Option.map_eq_none_iff
  constructor
  · intro fails
    cases resolved : Dashboard.run site written with
    | error other =>
      simp only [Dashboard.giveFeedback, resolved] at fails
      cases fails
      exact refuses_of_run site reason _ written rfl resolved
    | ok run =>
      have found := (run_eq_ok site written run).mp resolved
      cases rated : Dashboard.feedback? request now with
      | none =>
        simp only [Dashboard.giveFeedback, resolved, rated] at fails
        cases fails
        exact .unknownRating written request now run found (unknown.mp rated)
      | some feedback =>
        obtain ⟨change, saved⟩ :=
          giveFeedback_eq_ok site written request now run found feedback rated
        rw [saved] at fails
        cases fails
  · intro refuses
    cases refuses with
    | unsearched _ _ named left bracket tooDeep =>
      cases named
      simp only [Dashboard.giveFeedback, run_of_unsearched left tooDeep]
    | unresolved _ _ named absent =>
      cases named
      simp only [Dashboard.giveFeedback, run_of_unresolved absent]
    | unknownRating _ _ _ run found unrated =>
      simp only [Dashboard.giveFeedback, (run_eq_ok site written run).mpr found,
        unknown.mpr unrated]

/-- The list of the newest runs fails exactly if the storage file nests too deeply. Any limit
    is taken. -/
theorem runs_eq_error (limit : Option Text) :
    Dashboard.runs site limit = .error reason ↔ Refuses site (.runs limit) reason := by
  rw [Dashboard.runs, map_eq_error, Dashboard.loaded, Store.load]
  constructor
  · intro fails
    rcases loaded : site.document.load with bracket | runs
    · rw [loaded] at fails
      cases fails
      exact .unlisted limit bracket loaded
    · rw [loaded] at fails
      cases fails
  · intro refuses
    cases refuses with
    | unlisted _ bracket tooDeep =>
      rw [tooDeep]
      rfl
    | unsearched _ _ named | unresolved _ _ named => cases named

/-- The thread of a run fails with the run's name. Where the run is found the storage file
    was loaded for it, so it does not fail when it is loaded for the thread. -/
theorem chain_eq_error (written : Text) :
    Dashboard.chain site written = .error reason ↔ Refuses site (.chain written) reason := by
  constructor
  · intro fails
    rcases (bind_eq_error _ _ reason).mp fails with unknown | ⟨run, resolved, failed⟩
    · exact refuses_of_run site reason _ written rfl unknown
    · have found := (run_eq_ok site written run).mp resolved
      have loads := site.document.loads_of_mem run
        (Store.mem_of_find? site.document.runs written run found)
      rw [Dashboard.loaded, Store.load_of_loads site.document loads] at failed
      cases failed
  · intro refuses
    cases refuses with
    | unsearched _ _ named left bracket tooDeep =>
      cases named
      rw [Dashboard.chain, run_of_unsearched left tooDeep]
      rfl
    | unresolved _ _ named absent =>
      cases named
      rw [Dashboard.chain, run_of_unresolved absent]
      rfl

/-- A request fails exactly for one of the reasons. There is one case for each request. -/
theorem outcome_eq_error (request : Request) :
    request.outcome site = .error reason ↔ request.Refuses site reason := by
  cases request with
  | store operation =>
    rw [outcome, map_eq_error]
    exact stored_eq_error site reason operation
  | runs limit =>
    rw [outcome, map_eq_error]
    exact runs_eq_error site reason limit
  | run written =>
    rw [outcome, map_eq_error]
    constructor
    · exact refuses_of_run site reason _ written rfl
    · intro refuses
      cases refuses with
      | unsearched _ _ named left bracket tooDeep =>
        cases named
        exact run_of_unsearched left tooDeep
      | unresolved _ _ named absent =>
        cases named
        exact run_of_unresolved absent
  | chain written =>
    rw [outcome, map_eq_error]
    exact chain_eq_error site reason written
  | logTail written lines =>
    rw [outcome, map_eq_error]
    exact logTail_eq_error site reason written lines
  | events milliseconds written =>
    rw [outcome, map_eq_error]
    exact events_eq_error site reason milliseconds written
  | giveFeedback written feedback now =>
    rw [outcome, map_eq_error]
    exact giveFeedback_eq_error site reason written feedback now

/-- What requests that fail leave behind them, whatever the site holds. -/
structure FailsCleanly (world : World) : Prop where
  /-- The steps of a request come to what the dashboard and the store say. -/
  steps : ∀ request : Request, Ending.ComesTo (request.task.run world)
    (request.outcome world.site) (request.behind world.site)
  /-- A request fails exactly if there is a reason. -/
  reasons : ∀ (request : Request) (reason : RequestError),
    Ending.outcome (request.task.run world) = .error reason ↔ request.Refuses world.site reason
  /-- One field that is not valid makes an update fail, whatever else it gives. -/
  invalid : ∀ (id : Text) (changes : Table Json), ∀ slot ∈ Run.slots, ∀ value : Json,
    (Table.ofEntries changes).get? slot.key = some value → slot.keep? value = none →
      ∃ reason, Ending.outcome ((store (.update id changes)).task.run world) = .error reason
  /-- A request that fails leaves every file as it was. -/
  intact : ∀ (request : Request) (reason : RequestError) (after : World),
    request.task.run world = .error reason after → after.site = world.site
  /-- Whatever is asked behind a request that fails is answered as without it. -/
  unnoticed : ∀ (request : Request) (reason : RequestError) (after : World),
    request.task.run world = .error reason after →
      ∀ later : List Request, answers later after = answers later world

/-- Requests that fail change nothing. Later requests are answered as if they had not been
    made, since answers depend on the site alone. -/
theorem failed_requests_change_nothing (world : World) : FailsCleanly world where
  steps request := request.task_comesTo world
  reasons request reason := by
    rw [(request.task_comesTo world).outcome]
    exact outcome_eq_error world.site reason request
  invalid id changes slot field value given refused := by
    obtain ⟨reason, fails⟩ := Store.Operation.update_fails_of_invalid world.site.document id
      changes slot field value given refused
    refine ⟨.store reason, ?_⟩
    rw [((store (.update id changes)).task_comesTo world).outcome, outcome, stored, fails]
    rfl
  intact request reason after fails := site_of_error request reason world after fails
  unnoticed request reason after fails later :=
    answers_congr later after world (site_of_error request reason world after fails)

end AgentRuns.Request
