import AgentRuns.Proofs.Transcript.Steps

/-!
# Who waits for a result

Capturing calls wait in line for the blocks that answer them. The line holds
places of events. It is in the order of the events and without repetition;
everyone in it is a captured call without a result, and nothing but calls was
told since.

A ledger of the answers given so far says what became of every captured call:
it waits, it was answered, or an event of another kind came behind it. From this
alone the answers keep the order of the calls. Three things can happen to a
ledger: an event of another kind, a call, and an answer to the head of the line.
-/

namespace AgentRuns

/-- Whether the event is a call whose result is captured. -/
def Event.isCaptured (event : Event) : Bool :=
  event.kind = .toolCall && event.tool.any capturesResult

/-- The event with a summary as its result; an empty summary is no result. -/
def Event.answered (summary : Text) (event : Event) : Event :=
  if summary.isEmpty then event else { event with result := some summary }

/-- Whether a call stands at the place. -/
def callAt (events : List Event) (place : Nat) : Bool :=
  events[place]?.any fun event => event.kind = .toolCall

/-- Whether a captured call stands at the place. -/
def capturedAt (events : List Event) (place : Nat) : Bool :=
  events[place]?.any Event.isCaptured

/-- The result at the place. -/
def resultAt (events : List Event) (place : Nat) : Option Text :=
  events[place]?.bind (·.result)

/-- What stands behind all events is the new one. At the other places stand those that were
    there. -/
theorem getElem?_told (events : List Event) (event : Event) (place : Nat) :
    (events ++ [event])[place]? =
      if place = events.length then some event else events[place]? := by
  grind

/-- The calls behind one more event are those that were there, and the event itself if it is
    one. -/
theorem callAt_told (events : List Event) (event : Event) (place : Nat) :
    callAt (events ++ [event]) place =
      if place = events.length then decide (event.kind = .toolCall)
      else callAt events place := by
  simp only [callAt, getElem?_told]
  split <;> simp

/-- The captured calls behind one more event are those that were there, and the event itself
    if it is one. -/
theorem capturedAt_told (events : List Event) (event : Event) (place : Nat) :
    capturedAt (events ++ [event]) place =
      if place = events.length then event.isCaptured else capturedAt events place := by
  simp only [capturedAt, getElem?_told]
  split <;> simp

/-- The results behind one more event are those that were there, and its own. -/
theorem resultAt_told (events : List Event) (event : Event) (place : Nat) :
    resultAt (events ++ [event]) place =
      if place = events.length then event.result else resultAt events place := by
  simp only [resultAt, getElem?_told]
  split <;> simp

/-- An answer changes no kind. -/
@[simp] theorem answered_kind (summary : Text) (event : Event) :
    (event.answered summary).kind = event.kind := by
  unfold Event.answered
  split <;> rfl

/-- An answer changes no tool. -/
@[simp] theorem answered_tool (summary : Text) (event : Event) :
    (event.answered summary).tool = event.tool := by
  unfold Event.answered
  split <;> rfl

/-- What an answer does not touch stands where it stood. -/
theorem map_answered {β : Type} (events : List Event) (summary : Text) (call : Nat)
    (project : Event → β) (kept : ∀ event, project (event.answered summary) = project event) :
    (events.modify call (Event.answered summary)).map project = events.map project := by
  apply List.ext_getElem?
  intro place
  rw [List.getElem?_map, List.getElem?_map, List.getElem?_modify]
  cases events[place]? with
  | none => rfl
  | some event =>
    by_cases same : call = place
    · simp [same, kept]
    · simp [same]

/-- Whether a test holds at a place is not changed by an answer that does not touch it. -/
theorem any_answered (events : List Event) (summary : Text) (call place : Nat)
    (holds : Event → Bool) (kept : ∀ event, holds (event.answered summary) = holds event) :
    (events.modify call (Event.answered summary))[place]?.any holds =
      events[place]?.any holds := by
  have same := congrArg (·[place]?.any id) (map_answered events summary call holds kept)
  simpa only [List.getElem?_map, Option.any_map, Function.id_comp, id] using same

/-- An answer makes no call of an event and unmakes none. -/
theorem callAt_answered (events : List Event) (summary : Text) (call place : Nat) :
    callAt (events.modify call (Event.answered summary)) place = callAt events place :=
  any_answered events summary call place _ fun event => by simp

/-- An answer makes no captured call of an event and unmakes none. -/
theorem capturedAt_answered (events : List Event) (summary : Text) (call place : Nat) :
    capturedAt (events.modify call (Event.answered summary)) place =
      capturedAt events place :=
  any_answered events summary call place _ fun event => by simp [Event.isCaptured]

/-- An answer sets the result of its call, unless it is empty, and no other. -/
theorem resultAt_answered (events : List Event) (summary : Text) (call place : Nat)
    (inside : call < events.length) :
    resultAt (events.modify call (Event.answered summary)) place =
      if call = place ∧ summary ≠ [] then some summary else resultAt events place := by
  simp only [resultAt, List.getElem?_modify]
  by_cases same : call = place
  · subst same
    rw [List.getElem?_eq_getElem inside]
    by_cases empty : summary = [] <;> simp [Event.answered, empty]
  · simp [same]

/-- A captured call stands among the events. -/
theorem capturedAt_inside (events : List Event) (place : Nat)
    (captured : capturedAt events place = true) : place < events.length := by
  refine Nat.lt_of_not_le fun outside => ?_
  simp [capturedAt, List.getElem?_eq_none outside] at captured

/-- A block that answers: the number of the line that opens it, its lines, its
    summary, and who waited then, whoever has waited longest first. -/
structure Answer where
  opening : Nat
  block : Block
  summary : Text
  waiting : List Nat

/-- The call that is answered: the head of the line, if anyone stands in it. -/
def Answer.call? (answer : Answer) : Option Nat := answer.waiting.head?

/-- A line of waiting calls over the events told so far. -/
structure Waits (events : List Event) (pending : List Nat) : Prop where
  inOrder : pending.Pairwise (· < ·)
  captured : ∀ place ∈ pending, capturedAt events place = true
  unanswered : ∀ place ∈ pending, resultAt events place = none
  uninterrupted : ∀ place ∈ pending, ∀ later, place < later → later < events.length →
    callAt events later = true

/-- The results among the events are those of the answers: every answer finds a
    captured call in line, no two answers share a block or a call, the results
    are the answers' summaries, and calls of one batch are answered in turn. -/
structure Accounts (events : List Event) (answers : List Answer) : Prop where
  answered : ∀ answer ∈ answers, ∃ call, answer.call? = some call ∧
    capturedAt events call = true
  apart : answers.Pairwise fun first second =>
    first.opening < second.opening ∧ first.call? ≠ second.call?
  results : ∀ place text, resultAt events place = some text ↔
    text ≠ [] ∧ ∃ answer ∈ answers, answer.call? = some place ∧ answer.summary = text
  inTurn : ∀ earlier later, earlier < later → capturedAt events earlier = true →
    (∀ between, earlier < between → between < later → callAt events between = true) →
    ∀ answer ∈ answers, answer.call? = some later →
      ∃ prior ∈ answers, prior.call? = some earlier ∧ prior.opening < answer.opening

/-- The line and the accounts together, with what became of every captured call. -/
structure Ledger (events : List Event) (pending : List Nat) (answers : List Answer) : Prop
    extends Waits events pending, Accounts events answers where
  gone : ∀ answer ∈ answers, ∀ call ∈ pending, answer.call? ≠ some call
  kept : ∀ place, capturedAt events place = true → place ∈ pending ∨
    (∃ answer ∈ answers, answer.call? = some place) ∨
    ∃ later, place < later ∧ later < events.length ∧ callAt events later = false

/-- A captured call is a call. -/
theorem callAt_of_capturedAt (events : List Event) (place : Nat)
    (captured : capturedAt events place = true) : callAt events place = true := by
  simp only [capturedAt, callAt, Event.isCaptured, Option.any_eq_true, Bool.and_eq_true] at *
  obtain ⟨event, found, isCall, _⟩ := captured
  exact ⟨event, found, isCall⟩

/-- A further event without a result leaves the accounts as they are. An answered
    call stands among the earlier events, so the new place is nobody's. -/
theorem Accounts.told {events : List Event} {answers : List Answer}
    (accounts : Accounts events answers) (event : Event) (fresh : event.result = none) :
    Accounts (events ++ [event]) answers where
  answered := by
    intro answer given
    obtain ⟨call, answers, captured⟩ := accounts.answered answer given
    have inside : call < events.length := capturedAt_inside events call captured
    refine ⟨call, answers, ?_⟩
    rw [capturedAt_told, if_neg (Nat.ne_of_lt inside)]
    exact captured
  apart := accounts.apart
  results := by
    intro place text
    rw [resultAt_told]
    split
    · rename_i last
      rw [fresh]
      constructor
      · intro impossible
        cases impossible
      · rintro ⟨_, answer, given, answers, _⟩
        obtain ⟨call, same, captured⟩ := accounts.answered answer given
        have inside : call < events.length := capturedAt_inside events call captured
        have here : place = call := Option.some.inj (answers.symm.trans same)
        omega
    · exact accounts.results place text
  inTurn := by
    intro earlier later before captured batch answer given answers
    obtain ⟨call, same, laterCaptured⟩ := accounts.answered answer given
    have inside : call < events.length := capturedAt_inside events call laterCaptured
    have here : later = call := Option.some.inj (answers.symm.trans same)
    rw [capturedAt_told, if_neg (by omega)] at captured
    refine accounts.inTurn earlier later before captured ?_ answer given answers
    intro between above below
    have told := batch between above below
    rwa [callAt_told, if_neg (by omega)] at told

/-- The line behind a call: a captured call joins its end. -/
def joining (events : List Event) (pending : List Nat) (event : Event) : List Nat :=
  pending ++ if event.isCaptured then [events.length] else []

/-- In line behind an event are those who waited, and the event itself if it is a captured
    call. -/
theorem mem_joining (events : List Event) (pending : List Nat) (event : Event) (place : Nat) :
    place ∈ joining events pending event ↔
      place ∈ pending ∨ (event.isCaptured = true ∧ place = events.length) := by
  by_cases captured : event.isCaptured = true <;> simp [joining, captured]

/-- Behind a call the line still waits, the call in its last place. Its place is behind all
    others, so the line stays in order. -/
theorem Waits.call {events : List Event} {pending : List Nat}
    (waits : Waits events pending) (event : Event)
    (isCall : event.kind = .toolCall) (fresh : event.result = none) :
    Waits (events ++ [event]) (joining events pending event) := by
  have inside : ∀ place ∈ pending, place < events.length := fun place before =>
    capturedAt_inside events place (waits.captured place before)
  constructor
  case inOrder =>
    refine List.pairwise_append.mpr ⟨waits.inOrder, ?_, ?_⟩
    · split <;> simp
    · intro first before second joins
      have last : second = events.length := by
        split at joins <;> simp_all
      exact last ▸ inside first before
  case captured =>
    intro place member
    rw [capturedAt_told]
    rcases (mem_joining events pending event place).mp member with before | ⟨captured, rfl⟩
    · rw [if_neg (Nat.ne_of_lt (inside place before))]
      exact waits.captured place before
    · rw [if_pos rfl]
      exact captured
  case unanswered =>
    intro place member
    rw [resultAt_told]
    rcases (mem_joining events pending event place).mp member with before | ⟨_, rfl⟩
    · rw [if_neg (Nat.ne_of_lt (inside place before))]
      exact waits.unanswered place before
    · rw [if_pos rfl]
      exact fresh
  case uninterrupted =>
    intro place member later behind bounded
    rw [callAt_told]
    split
    · exact decide_eq_true isCall
    · simp only [List.length_append, List.length_singleton] at bounded
      rcases (mem_joining events pending event place).mp member with before | ⟨_, rfl⟩
      · exact waits.uninterrupted place before later behind (by omega)
      · omega

/-- Behind an answer to its head the rest of the line still waits. The answer is not to
    anybody of the rest. -/
theorem Waits.answer {events : List Event} {call : Nat} {later : List Nat}
    (waits : Waits events (call :: later)) (summary : Text) :
    Waits (events.modify call (Event.answered summary)) later := by
  have ascends := List.pairwise_cons.mp waits.inOrder
  have inside : call < events.length :=
    capturedAt_inside events call (waits.captured call List.mem_cons_self)
  constructor
  case inOrder => exact ascends.2
  case captured =>
    intro place member
    rw [capturedAt_answered]
    exact waits.captured place (List.mem_cons_of_mem call member)
  case unanswered =>
    intro place member
    have behind : call < place := ascends.1 place member
    rw [resultAt_answered events summary call place inside, if_neg (by omega)]
    exact waits.unanswered place (List.mem_cons_of_mem call member)
  case uninterrupted =>
    intro place member later behind bounded
    rw [callAt_answered]
    rw [List.length_modify] at bounded
    exact waits.uninterrupted place (List.mem_cons_of_mem call member) later behind bounded

namespace Ledger

/-- Nothing was told and nothing answered. -/
theorem empty : Ledger [] [] [] where
  inOrder := .nil
  captured := by simp
  unanswered := by simp
  uninterrupted := by simp
  answered := by simp
  apart := .nil
  results := by simp [resultAt]
  inTurn := by simp
  gone := by simp
  kept := by simp [capturedAt]

variable {events : List Event} {pending : List Nat} {answers : List Answer}

/-- An event of another kind abandons everyone in line: it stands behind them. They are never
    answered then. -/
theorem other (ledger : Ledger events pending answers) (event : Event)
    (notCall : event.kind ≠ .toolCall) (fresh : event.result = none) :
    Ledger (events ++ [event]) [] answers where
  toAccounts := ledger.toAccounts.told event fresh
  inOrder := .nil
  captured := by simp
  unanswered := by simp
  uninterrupted := by simp
  gone := by simp
  kept := by
    intro place captured
    rw [capturedAt_told] at captured
    split at captured
    · simp [Event.isCaptured, notCall] at captured
    · refine Or.inr (Or.inr ⟨events.length, capturedAt_inside events place captured, by simp, ?_⟩)
      rw [callAt_told, if_pos rfl]
      exact decide_eq_false notCall

/-- A call keeps the line, and joins its end if its result is captured. -/
theorem call (ledger : Ledger events pending answers) (event : Event)
    (isCall : event.kind = .toolCall) (fresh : event.result = none) :
    Ledger (events ++ [event]) (joining events pending event) answers where
  toWaits := ledger.toWaits.call event isCall fresh
  toAccounts := ledger.toAccounts.told event fresh
  gone := by
    intro answer given place waits answers
    rcases (mem_joining events pending event place).mp waits with before | ⟨_, rfl⟩
    · exact ledger.gone answer given place before answers
    · obtain ⟨answered, same, captured⟩ := ledger.answered answer given
      have below : answered < events.length := capturedAt_inside events answered captured
      have here : events.length = answered := Option.some.inj (answers.symm.trans same)
      omega
  kept := by
    intro place captured
    rw [capturedAt_told] at captured
    split at captured
    · rename_i last
      exact Or.inl ((mem_joining events pending event place).mpr (Or.inr ⟨captured, last⟩))
    · rcases ledger.kept place captured with waits | answered | ⟨later, behind, bounded, told⟩
      · exact Or.inl ((mem_joining events pending event place).mpr (Or.inl waits))
      · exact Or.inr (Or.inl answered)
      · refine Or.inr (Or.inr ⟨later, behind, ?_, ?_⟩)
        · simp only [List.length_append, List.length_singleton]
          omega
        · rwa [callAt_told, if_neg (by omega)]

/-- The answer to the head of the line enters the accounts. Whoever is captured
    before the head in its batch was answered before: it left the line, and no
    event of another kind stands behind it, since it would stand behind the head
    as well. -/
theorem accounts_answer {call : Nat} {later : List Nat}
    (ledger : Ledger events (call :: later) answers) (answer : Answer)
    (asked : answer.waiting = call :: later)
    (below : ∀ prior ∈ answers, prior.opening < answer.opening) :
    Accounts (events.modify call (Event.answered answer.summary)) (answers ++ [answer]) := by
  have captured : capturedAt events call = true := ledger.captured call List.mem_cons_self
  have inside : call < events.length := capturedAt_inside events call captured
  have answersCall : answer.call? = some call := by rw [Answer.call?, asked, List.head?_cons]
  have others : ∀ prior ∈ answers, prior.call? ≠ some call := fun prior given =>
    ledger.gone prior given call List.mem_cons_self
  constructor
  case answered =>
    intro other given
    simp only [capturedAt_answered]
    rcases List.mem_append.mp given with before | last
    · exact ledger.answered other before
    · rw [List.mem_singleton.mp last]
      exact ⟨call, answersCall, captured⟩
  case apart =>
    refine List.pairwise_append.mpr ⟨ledger.apart, List.pairwise_singleton _ _, ?_⟩
    intro prior given other last
    rw [List.mem_singleton.mp last, answersCall]
    exact ⟨below prior given, others prior given⟩
  case results =>
    intro place text
    rw [resultAt_answered events answer.summary call place inside]
    simp only [List.mem_append, List.mem_singleton, or_and_right, exists_or, exists_eq_left,
      answersCall, Option.some.injEq]
    by_cases here : call = place
    · subst here
      have unanswered : resultAt events call = none := ledger.unanswered call List.mem_cons_self
      have nobody : ¬∃ prior ∈ answers, prior.call? = some call ∧ prior.summary = text := by
        rintro ⟨prior, given, same, _⟩
        exact others prior given same
      by_cases empty : answer.summary = [] <;> grind
    · simp [here, ledger.results place text]
  case inTurn =>
    intro earlier later before earlierCaptured batch other given answersLater
    simp only [capturedAt_answered, callAt_answered] at earlierCaptured batch
    rcases List.mem_append.mp given with old | last
    · obtain ⟨prior, found, same, precedes⟩ :=
        ledger.inTurn earlier later before earlierCaptured batch other old answersLater
      exact ⟨prior, List.mem_append_left _ found, same, precedes⟩
    · rw [List.mem_singleton.mp last] at answersLater ⊢
      have head : call = later := Option.some.inj (answersCall.symm.trans answersLater)
      subst head
      rcases ledger.kept earlier earlierCaptured with waits | ⟨prior, found, same⟩ | interrupted
      · rcases List.mem_cons.mp waits with same | behind
        · omega
        · have ascends := (List.pairwise_cons.mp ledger.inOrder).1 earlier behind
          omega
      · exact ⟨prior, List.mem_append_left _ found, same, below prior found⟩
      · obtain ⟨place, behind, bounded, notCall⟩ := interrupted
        have isCall : callAt events place = true := by
          rcases Nat.lt_trichotomy place call with between | same | after
          · exact batch place behind between
          · exact same ▸ callAt_of_capturedAt events call captured
          · exact ledger.uninterrupted call List.mem_cons_self place after bounded
        simp [isCall] at notCall

/-- The head of the line is answered by a block below all that answered before. So the answers
    come in the order of the line. -/
theorem answer {call : Nat} {later : List Nat}
    (ledger : Ledger events (call :: later) answers) (answer : Answer)
    (asked : answer.waiting = call :: later)
    (below : ∀ prior ∈ answers, prior.opening < answer.opening) :
    Ledger (events.modify call (Event.answered answer.summary)) later (answers ++ [answer]) where
  toWaits := ledger.toWaits.answer answer.summary
  toAccounts := ledger.accounts_answer answer asked below
  gone := by
    intro other given place waits
    rcases List.mem_append.mp given with before | last
    · exact ledger.gone other before place (List.mem_cons_of_mem call waits)
    · rw [List.mem_singleton.mp last, Answer.call?, asked, List.head?_cons]
      intro same
      have here : call = place := Option.some.inj same
      have behind := (List.pairwise_cons.mp ledger.inOrder).1 place waits
      omega
  kept := by
    intro place captured
    rw [capturedAt_answered] at captured
    simp only [callAt_answered, List.length_modify]
    rcases ledger.kept place captured with waits | ⟨prior, given, same⟩ | interrupted
    · rcases List.mem_cons.mp waits with here | behind
      · refine Or.inr (Or.inl ⟨answer, by simp, ?_⟩)
        rw [Answer.call?, asked, List.head?_cons, here]
      · exact Or.inl behind
    · exact Or.inr (Or.inl ⟨prior, List.mem_append_left _ given, same⟩)
    · exact Or.inr (Or.inr interrupted)

end Ledger

end AgentRuns
