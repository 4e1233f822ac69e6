import ReadRouting.Fault

set_option autoImplicit false
set_option relaxedAutoImplicit false

/-!
# Events

What is recorded for the operator while a read is routed: that a snapshot has several
reachable primaries, and that no member is eligible. Events that were recorded stay recorded
when the operation then fails.

## Main definitions

* `ReadRouting.Event` — the two events.
* `ReadRouting.Recorded` — a computation that records events and may fail.
* `ReadRouting.record` — records an event.
-/

namespace ReadRouting

/-- Something worth recording. -/
inductive Event
  /-- A snapshot has several reachable primaries; their addresses, joined with commas. -/
  | severalPrimaries (count : Nat) (endpoints : String)
  /-- No member matches a read preference. -/
  | noneEligible (p : Preference)

/-- How much an event matters. -/
inductive EventLevel
  | warning
  | debug
  deriving DecidableEq

/-- How much an event matters: a second primary is worth a warning, the absence of an eligible
member is no error. -/
def Event.level : Event → EventLevel
  | .severalPrimaries _ _ => .warning
  | .noneEligible _ => .debug

/-- A computation that records events, latest last, and may fail. -/
abbrev Recorded := ExceptT Fault (StateM (List Event))

/-- Records an event. -/
def record (e : Event) : Recorded Unit := modify (· ++ [e])

/-- A check that records nothing. -/
def Recorded.ofChecked {α : Type} (c : Checked α) : Recorded α := ExceptT.mk (pure c)

/-- Runs computations in order and collects what they yield. -/
def Recorded.collect {α : Type} : List (Recorded α) → Recorded (List α)
  | [] => pure []
  | c :: cs => do
    let a ← c
    let as ← collect cs
    return a :: as

/-- The result of a computation and the events it recorded. -/
def Recorded.outcome {α : Type} (r : Recorded α) : Checked α × List Event := r.run.run []

end ReadRouting
