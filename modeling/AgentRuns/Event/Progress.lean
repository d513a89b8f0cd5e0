import AgentRuns.Event.Basic

/-!
# Progress

Tool calls, reasoning and session starts advance a run in equal steps, so that
the last of them lands on one hundred percent. Phase markers stand at fixed
milestones whatever the length of the transcript, and everything else stays at
zero. Positions are counted from zero over all events.

A measured share is rounded to tenths of a percent. Its steps are those of the
binary format: the quotient, its thousandfold and the half that is added before
cutting are each rounded to the nearest such number. The exact rule differs from
this one only where a share lies halfway between two tenths.
-/

namespace AgentRuns

/-- Whether events of this kind advance the run. -/
def EventKind.advances : EventKind → Bool
  | .toolCall | .agentThinking | .sessionStart => true
  | _ => false

/-- The milestone of a phase in whole percent; an unknown phase has none. -/
def milestone (phase : Text) : Nat :=
  let milestones : Table Nat :=
    [("cloning", 5), ("agent", 10), ("committing", 88), ("pushing", 95)]
  (milestones.get? phase).getD 0

/-- The share `seen / total` in tenths of a percent, a half rounded up. -/
def exactTenths (seen total : Nat) : Nat :=
  (Quotient.addHalf ⟨1000 * seen, total⟩).floor

/-- The share `seen / total` in tenths of a percent, each step rounded to the
    binary format. -/
def roundedTenths (seen total : Nat) : Nat :=
  match (Binary64.ofQuotient false ⟨seen, total⟩).times 1000 with
  | .finite _ mantissa exponent =>
    let raised := Binary64.ofQuotient false (Binary64.magnitude mantissa exponent).addHalf
    (raised.truncate?.getD 0).toNat
  | _ => 0

namespace Event

/-- The share of an event of which `seen` have advanced a run of `total`. -/
def share (tenths : Nat → Nat → Nat) (total seen : Nat) (event : Event) : Percent :=
  if event.kind.advances then .tenths (tenths seen total)
  else if event.kind = .phaseMarker then .whole (milestone (event.phase.getD []))
  else .whole 0

/-- The events with their places and shares, from a position on and with some
    already seen. -/
def placeFrom (tenths : Nat → Nat → Nat) (total position seen : Nat) :
    List Event → List Event
  | [] => []
  | event :: rest =>
    let seen := if event.kind.advances then seen + 1 else seen
    { event with index := position, progress := event.share tenths total seen } ::
      placeFrom tenths total (position + 1) seen rest

/-- How many of the events advance the run. -/
def advancing (events : List Event) : Nat := events.countP (·.kind.advances)

/-- The events with their places and shares, shares being measured by `tenths`. -/
def placeBy (tenths : Nat → Nat → Nat) (events : List Event) : List Event :=
  placeFrom tenths (advancing events) 0 0 events

/-- The events with their places and shares. -/
def place (events : List Event) : List Event := placeBy roundedTenths events

end Event

end AgentRuns
