import ReadRouting.Value

set_option autoImplicit false
set_option relaxedAutoImplicit false

/-!
# Objects within values

Going through a value and everything in it, to number the objects that were just made and to
bring an object that has changed up to date wherever it occurs.

## Main definitions

* `ReadRouting.Value.mapObjects` — applies a computation to every value in a value, innermost
  first.
* `ReadRouting.Value.ident?` — the number of an object.
* `ReadRouting.Value.numbered` — numbers an object that was just made.
* `ReadRouting.Value.renewed` — replaces an object by its new state.
-/

namespace ReadRouting

section

variable {σ : Type} (f : Value → StateM σ Value)

mutual

/-- Applies a computation to every value in a value, innermost first. -/
def Value.mapObjects : Value → StateM σ Value
  | .list ident xs => do f (.list ident (← Value.mapAllObjects xs))
  | .tuple xs => do f (.tuple (← Value.mapAllObjects xs))
  | .mapping m => do f (.mapping (← Mapping.mapObjects m))
  | .label l => do f (.label (← Label.mapObjects l))
  | .labels s => do f (.labels (← LabelSet.mapObjects s))
  | .server s => do f (.server (← Server.mapObjects s))
  | .builder b => do f (.builder (← ServerBuilder.mapObjects b))
  | .cluster c => do f (.cluster (← Cluster.mapObjects c))
  | .preference p => do f (.preference (← Preference.mapObjects p))
  | .average a => do f (.average (← MovingAverage.mapObjects a))
  | .reply r => do f (.reply (← Reply.mapObjects r))
  | v => f v
termination_by structural v => v

/-- The same for several values. -/
def Value.mapAllObjects : List Value → StateM σ (List Value)
  | [] => return []
  | v :: vs => do
    let first ← Value.mapObjects v
    let rest ← Value.mapAllObjects vs
    return first :: rest
termination_by structural vs => vs

/-- The same for a value that may be missing. -/
def Value.mapOptionObjects : Option Value → StateM σ (Option Value)
  | none => return none
  | some v => do return some (← Value.mapObjects v)
termination_by structural v => v

/-- The same for the slots of a mapping. -/
def Slot.mapAllObjects : List Slot → StateM σ (List Slot)
  | [] => return []
  | ⟨key, value⟩ :: rest => do
    let k ← Value.mapObjects key
    let v ← Value.mapOptionObjects value
    let slots ← Slot.mapAllObjects rest
    return ⟨k, v⟩ :: slots
termination_by structural slots => slots

/-- The same for a mapping. -/
def Mapping.mapObjects : Mapping → StateM σ Mapping
  | ⟨kind, ident, slots⟩ => do return ⟨kind, ident, ← Slot.mapAllObjects slots⟩
termination_by structural m => m

/-- The same for a label. -/
def Label.mapObjects : Label → StateM σ Label
  | ⟨name, value⟩ => do
    let n ← Value.mapObjects name
    let v ← Value.mapObjects value
    return ⟨n, v⟩
termination_by structural l => l

/-- The same for several labels. -/
def Label.mapAllObjects : List Label → StateM σ (List Label)
  | [] => return []
  | l :: ls => do
    let first ← Label.mapObjects l
    let rest ← Label.mapAllObjects ls
    return first :: rest
termination_by structural ls => ls

/-- The same for a label set. -/
def LabelSet.mapObjects : LabelSet → StateM σ LabelSet
  | ⟨labels⟩ => do return ⟨← Label.mapAllObjects labels⟩
termination_by structural s => s

/-- The same for several label sets. -/
def LabelSet.mapAllObjects : List LabelSet → StateM σ (List LabelSet)
  | [] => return []
  | s :: ss => do
    let first ← LabelSet.mapObjects s
    let rest ← LabelSet.mapAllObjects ss
    return first :: rest
termination_by structural ss => ss

/-- The same for a server description. -/
def Server.mapObjects : Server → StateM σ Server
  | ⟨ident, address, reachable, primary, secondary, ping, labels, maxDocumentSize⟩ => do
    let address ← Value.mapObjects address
    let reachable ← Value.mapObjects reachable
    let primary ← Value.mapObjects primary
    let secondary ← Value.mapObjects secondary
    let ping ← Value.mapObjects ping
    let labels ← LabelSet.mapObjects labels
    let maxDocumentSize ← Value.mapObjects maxDocumentSize
    return ⟨ident, address, reachable, primary, secondary, ping, labels, maxDocumentSize⟩
termination_by structural s => s

/-- The same for a builder. -/
def ServerBuilder.mapObjects : ServerBuilder → StateM σ ServerBuilder
  | ⟨ident, frozen, address, reachable, primary, secondary, ping, labels, size⟩ => do
    let labels ← LabelSet.mapObjects labels
    return ⟨ident, frozen, address, reachable, primary, secondary, ping, labels, size⟩
termination_by structural b => b

/-- The same for a snapshot. -/
def Cluster.mapObjects : Cluster → StateM σ Cluster
  | ⟨ident, members, latency, source⟩ => do
    return ⟨ident, ← Value.mapAllObjects members, latency, source⟩
termination_by structural c => c

/-- The same for a read preference. -/
def Preference.mapObjects : Preference → StateM σ Preference
  | ⟨mode, tagSets⟩ => do return ⟨mode, ← LabelSet.mapAllObjects tagSets⟩
termination_by structural p => p

/-- The same for a moving average. -/
def MovingAverage.mapObjects : MovingAverage → StateM σ MovingAverage
  | ⟨ident, samples, current⟩ => do
    let samples ← Value.mapAllObjects samples
    let current ← Value.mapOptionObjects current
    return ⟨ident, samples, current⟩
termination_by structural a => a

/-- The same for a reply. -/
def Reply.mapObjects : Reply → StateM σ Reply
  | ⟨ident, document, serverType⟩ => do
    return ⟨ident, ← Value.mapObjects document, serverType⟩
termination_by structural r => r

end

end

namespace Value

/-- The number of an object; values without a number of their own have none. -/
def ident? : Value → Ident
  | .float _ ident => ident
  | .list ident _ => ident
  | .mapping m => m.ident
  | .server s => s.ident
  | .builder b => b.ident
  | .cluster c => c.ident
  | .average a => a.ident
  | .reply r => r.ident
  | .settings s => s.ident
  | .source r => r.ident
  | .stranger ident => ident
  | _ => none

/-- An object with a number. Of floats, only what is not a number can be told apart from an
equal one; the shared random source is known without a number. -/
def withIdent (ident : Ident) : Value → Value
  | .float x old => if x.isNaN then .float x ident else .float x old
  | .list _ xs => .list ident xs
  | .mapping m => .mapping { m with ident }
  | .server s => .server { s with ident }
  | .builder b => .builder { b with ident }
  | .cluster c => .cluster { c with ident }
  | .average a => .average { a with ident }
  | .reply r => .reply { r with ident }
  | .settings s => .settings { s with ident }
  | .source r => .source (if r.plan = .shared then r else { r with ident })
  | .stranger _ => .stranger ident
  | v => v

/-- Numbers an object that was just made with the next free number. -/
def numbered (v : Value) : StateM Nat Value := do
  match v.ident? with
  | some _ => return v
  | none =>
    let n ← getModify (· + 1)
    return v.withIdent (some n)

/-- Replaces an object by its new state, if it is the same object. -/
def renewed (new v : Value) : StateM Unit Value :=
  return if new.ident?.same v.ident? then new else v

end Value

end ReadRouting
