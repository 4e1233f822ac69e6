import ReadRouting.Mapping.Edit

set_option autoImplicit false
set_option relaxedAutoImplicit false

/-!
# Labels and label sets

Tags of replica set members. A label set is made from pairs or from a mapping of name to
value, and keeps the labels in the order given, repeated ones too. Order and repetition do not
count when one set is asked whether it includes another.

## Main definitions

* `ReadRouting.Label.ofValue` — the label that a pair stands for.
* `ReadRouting.LabelSet.ofValue`, `ReadRouting.LabelSet.ofDocument` — label sets from pairs or
  a mapping, and from a mapping only.
* `ReadRouting.LabelSet.toDocument` — the document of a label set; of several labels with one
  name the last one counts.
* `ReadRouting.LabelSet.includes` — whether a set has every label of another.

## Main results

* `ReadRouting.LabelSet.includes_iff` — inclusion in terms of the keys of the labels.
-/

namespace ReadRouting

/-- The label that a value of two items stands for; texts and byte strings never do. -/
def Label.ofValue (v : Value) : Checked Label :=
  match v, v.items? with
  | .text _, _ => .error (.refused (.notLabel v))
  | .bytes _, _ => .error (.refused (.notLabel v))
  | _, some [name, value] => .ok ⟨name, value⟩
  | _, _ => .error (.refused (.notLabel v))

namespace LabelSet

/-- The set of given labels; each must have a key. -/
def ofLabels (labels : List Label) : Checked LabelSet :=
  if labels.all fun l => l.key?.isSome then .ok ⟨labels⟩ else .error .unsupported

/-- The set of the labels that given values stand for. -/
def ofItems (items : List Value) : Checked LabelSet := do
  ofLabels (← items.mapM Label.ofValue)

/-- The set of the entries of a mapping. -/
def ofMapping (m : Mapping) : Checked LabelSet :=
  ofLabels (m.entries.map fun e => ⟨e.1, e.2⟩)

/-- The label set of a mapping, or of pairs. -/
def ofValue (v : Value) : Checked LabelSet :=
  match v with
  | .mapping m => ofMapping m
  | _ => do ofItems (← v.items)

/-- The label set of a value that must be a mapping. -/
def ofDocument (v : Value) : Checked LabelSet :=
  match v with
  | .mapping m => ofMapping m
  | _ => .error .noSuchField

/-- The document with the labels as entries. -/
def toDocument (s : LabelSet) : Checked Mapping :=
  Mapping.ofEntries .document (s.labels.map fun l => (l.name, l.value))

/-- Whether a set has a label. -/
def has (s : LabelSet) (l : Label) : Bool := s.keys.contains l.key?

/-- Whether a set has every label of another. -/
def includes (s t : LabelSet) : Bool := t.labels.all s.has

/-- A set includes another when it has each of its labels, however often. -/
theorem includes_iff (s t : LabelSet) : s.includes t = true ↔ ∀ k ∈ t.keys, k ∈ s.keys := by
  simp [includes, has, keys]

/-- Whether a set has every one of several values as a label; the first that it does not have
ends the search. -/
def hasAll (s : LabelSet) : List Value → Checked Bool
  | [] => .ok true
  | v :: vs => do
    match v.key? with
    | none => throw .unsupported
    | some k => if s.keys.contains (some k) then hasAll s vs else return false

/-- Whether a set has everything as a label that a value yields. -/
def includesItems (s : LabelSet) (v : Value) : Checked Bool := do
  hasAll s (← v.items)

end LabelSet

end ReadRouting
