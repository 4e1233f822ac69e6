import ReadRouting.Cluster.Selection
import ReadRouting.Fault.Message
import ReadRouting.MovingAverage
import ReadRouting.Preference.Choose
import ReadRouting.Server.HealthCheck
import ReadRouting.Value.Objects

set_option autoImplicit false
set_option relaxedAutoImplicit false

/-!
# Workspaces

Values under names, for sequences of operations in which the same object is used again. An
object that changes — a mapping, a list, a builder — changes wherever it is referred to.

A workspace also counts the draws that each random source has answered, and keeps what was
recorded and which candidates were offered during the current step.

## Main definitions

* `ReadRouting.Workspace` — named values and what has to be remembered of objects.
* `ReadRouting.Session` — a step in a workspace, which is kept when the step fails.
* `ReadRouting.Session.adopt`, `bind`, `lookup?`, `renew` — numbering, naming, finding and
  changing objects.
* `ReadRouting.Session.edit`, `Session.configure` — edits of a mapping, and of a builder.
* `ReadRouting.Session.addSample` — a new average from the one under a name.
* `ReadRouting.Session.settle` — makes the draw that a selection ends with.
* `ReadRouting.Session.finish` — ends a step: its result or its report, with the texts of the
  events and the pools of the draws.
-/

namespace ReadRouting

/-- Named values and what has to be remembered of objects. -/
structure Workspace where
  bindings : List (String × Value) := []
  /-- The next free number for an object. -/
  next : Nat := 0
  /-- How many draws each random source has answered. -/
  draws : List (Ident × Nat) := []
  /-- What was recorded during the step. -/
  events : List Event := []
  /-- The candidates offered to random sources that were given, draw by draw. -/
  pools : List (List Server) := []

/-- A step in a workspace, which is kept when the step fails. -/
abbrev Session := ExceptT Fault (StateM Workspace)

namespace Session

/-- A check in a workspace. -/
def ofChecked {α : Type} (c : Checked α) : Session α := ExceptT.mk (pure c)

/-- A computation that records events, in a workspace. -/
def ofRecorded {α : Type} (r : Recorded α) : Session α := ExceptT.mk fun w =>
  let (result, events) := r.run.run w.events
  (result, { w with events })

/-- Numbers the objects in a value that were just made. -/
def adopt (v : Value) : Session Value := ExceptT.mk fun w =>
  let (numbered, next) := (v.mapObjects Value.numbered).run w.next
  (.ok numbered, { w with next })

/-- The value under a name. -/
def lookup? (name : String) : Session (Option Value) := do
  return (← get).bindings.lookup name

/-- Puts a value under a name. -/
def bind (name : String) (v : Value) : Session Unit :=
  modify fun w => { w with bindings := (name, v) :: w.bindings.filter (·.1 != name) }

/-- Brings an object that has changed up to date under all names. -/
def renew (v : Value) : Session Unit :=
  modify fun w =>
    { w with bindings := w.bindings.map fun b => (b.1, ((b.2.mapObjects v.renewed).run ()).1) }

/-- Edits a mapping, which keeps what was done when the edit fails. Yields the result and the
mapping afterwards. -/
def edit {α : Type} (v : Value) (e : Editing α) : Session (α × Value) := do
  match v with
  | .mapping m =>
    let (result, after) := e.run.run m
    renew (.mapping after)
    return (← ofChecked result, .mapping after)
  | _ => throw .noSuchField

/-- Adds an item at the end of a list. -/
def appendItem (v x : Value) : Session Unit := do
  match v with
  | .list ident xs => renew (.list ident (xs ++ [x]))
  | _ => throw .noSuchField

/-- Changes a builder, and yields it. A call that fails changes nothing. -/
def configure (v : Value) (f : ServerBuilder → Checked ServerBuilder) : Session Value := do
  match v with
  | .builder b =>
    let after := Value.builder (← ofChecked (f b))
    renew after
    return after
  | _ => throw .noSuchField

/-- Builds a server description; the builder is frozen afterwards. -/
def build (v : Value) : Session Server := do
  match v with
  | .builder b =>
    let (s, after) ← ofChecked b.build
    renew (.builder after)
    return s
  | _ => throw .noSuchField

/-- A new average from the one under a name and one more sample. -/
def addSample (name : String) (sample : Value) : Session Value := do
  match ← lookup? name with
  | some (.average a) => adopt (.average (← ofChecked (a.add sample)))
  | _ => throw .noSuchField

/-- How many draws a random source has answered. -/
def drawsOf (r : RandomSource) : Session Nat := do
  return ((← get).draws.lookup r.ident).getD 0

/-- Notes a draw that a source has answered. -/
def countDraw (r : RandomSource) (earlier : Nat) : Session Unit :=
  modify fun w =>
    { w with draws := (r.ident, earlier + 1) :: w.draws.filter (·.1 != r.ident) }

/-- Notes the candidates that are offered to a source, unless it is the shared one. -/
def notePool (r : RandomSource) (pool : List Server) : Session Unit :=
  if r.plan = .shared then pure ()
  else modify fun w => { w with pools := w.pools ++ [pool] }

/-- Makes the draw that a selection ends with. -/
def settle (r : RandomSource) (s : Selection) : Session (Option Server) := do
  match s with
  | .draw pool => notePool r pool
  | _ => pure ()
  let earlier ← drawsOf r
  let result ← ofChecked (s.resolve r earlier)
  match s with
  | .draw _ => countDraw r earlier
  | _ => pure ()
  return result

/-- The server that a read is sent to. -/
def choose (p : Preference) (c : Cluster) : Session (Option Server) := do
  settle c.source (← ofRecorded (p.choose c))

/-- One of the candidates within the latency window. -/
def selectByLatency (c : Cluster) (candidates : Value) : Session (Option Server) := do
  settle c.source (← ofChecked (c.selectByLatency candidates))

end Session

/-- The level and the text of each of several events, those that were recorded while an event
was worded before it; and the fault that stopped the wording. -/
def Event.wordAll : List Event → List (EventLevel × String) × Option Fault
  | [] => ([], none)
  | e :: es =>
    let (text, nested) := e.text.outcome
    let before := nested.filterMap fun n =>
      n.text.outcome.1.toOption.map (n.level, ·)
    match text with
    | .ok t =>
      let (rest, stopped) := wordAll es
      (before ++ (e.level, t) :: rest, stopped)
    | .error f => (before, some f)

/-- What is known when a step has ended. -/
structure StepOutcome (α : Type) where
  result : Except Report α
  log : List (EventLevel × String)
  pools : List (List Server)

/-- Ends a step: yields what is known of it, and the workspace for the next one. -/
def Session.finish {α : Type} (step : Session α) (w : Workspace) :
    StepOutcome α × Workspace :=
  let (result, after) := step.run.run { w with events := [], pools := [] }
  let (outcome, events) : Except Report α × List Event :=
    match result with
    | .ok a => (.ok a, after.events)
    | .error f =>
      let (report, events) := f.report.run after.events
      (.error report, events)
  let (log, stopped) := Event.wordAll events
  let final :=
    match stopped, outcome with
    | some f, .ok _ => .error ⟨f.kind, none⟩
    | _, _ => outcome
  (⟨final, log, after.pools⟩, after)

end ReadRouting
