import ReadRouting.Value.Key
import ReadRouting.Value.Number
import ReadRouting.Value.Sequence

set_option autoImplicit false
set_option relaxedAutoImplicit false

/-!
# Equality and likeness

Two comparisons of values. *Equality* tells the kinds of sequence apart, compares truth values
as numbers and, where items are held by a container, takes one and the same object as equal
to itself. *Likeness* is structural, for documents: numbers by numeric value but truth values
only with truth values, regular expressions by pattern and flags whether compiled or not,
mappings as mappings and sequences as sequences. Equality of a document with any mapping is
likeness.

A comparison fails where a document is gone through that holds a key with no value. Which of
two documents that is depends on which side leads the comparison: the left one, but a document
leads any other mapping, and a label leads a tuple.

## Main definitions

* `ReadRouting.Value.equals` — equality.
* `ReadRouting.Value.alike` — likeness.
* `ReadRouting.Mapping.alike` — likeness of mappings: the same keys, and alike under each.
* `ReadRouting.LabelSet.sameLabels` — the same labels, each as often.
* `ReadRouting.Value.contains` — membership.

## Main results

* `ReadRouting.LabelSet.sameLabels_iff` — the same labels means a rearrangement.
* `ReadRouting.Address.toValue_equals` — the equality of checked addresses never fails.

## Implementation notes

All is one recursion on the left value, `ReadRouting.Value.compare`. Where a mapping on the
right has to be gone through, the comparisons are made slot by slot of the left one and read
off in the order of the right one; `reversed` records that the right value leads, so that what
is in it is the left side of the comparisons to come.
-/

namespace ReadRouting

/-- The two ways to compare values. -/
inductive Likeness
  | strict
  | structural
  deriving DecidableEq

/-- The same labels, each as often. -/
def LabelSet.sameLabels (s t : LabelSet) : Bool :=
  (s.keys ++ t.keys).all fun k => s.keys.count k == t.keys.count k

/-- Label sets have the same labels when one is a rearrangement of the other. -/
theorem LabelSet.sameLabels_iff (s t : LabelSet) :
    s.sameLabels t = true ↔ s.keys.Perm t.keys := by
  simp only [sameLabels, List.all_eq_true, List.mem_append, beq_iff_eq, List.perm_iff_count]
  refine ⟨fun h k => ?_, fun h k _ => h k⟩
  by_cases hk : k ∈ s.keys ∨ k ∈ t.keys
  · exact h k hk
  · -- labels of neither are not gone through, and are counted nowhere
    rw [not_or] at hk
    rw [List.count_eq_zero_of_not_mem hk.1, List.count_eq_zero_of_not_mem hk.2]

/-- The same label sets, position by position. -/
def LabelSet.sameAll : List LabelSet → List LabelSet → Bool
  | [], [] => true
  | s :: ss, t :: ts => s.sameLabels t && sameAll ss ts
  | _, _ => false

/-- The same mode, and the same label sets in the same order. -/
def Preference.same (p q : Preference) : Bool :=
  p.mode == q.mode && LabelSet.sameAll p.tagSets q.tagSets

/-- Whether both mappings store something under the same keys. -/
def Mapping.sameKeys (m n : Mapping) : Bool :=
  m.keys.all n.keys.contains && n.keys.all m.keys.contains

/-- A regular expression's pattern and flags, without the flag that says that it is made of
characters, which only compiled ones carry. -/
def Value.expression? : Value → Option (Pattern × PatternFlags)
  | .regex p flags => some (p, { flags with unicode := false })
  | .compiled p flags => some (p, { flags with unicode := false })
  | _ => none

namespace Likeness

/-- Whether two values are one and the same object and need no comparison: only what may
differ from itself, or fail to compare, has to be looked at. -/
def exempt (how : Likeness) (a b : Value) : Bool :=
  match how, a, b with
  | .strict, .float _ i, .float _ j => i.same j
  | .strict, .mapping m, .mapping n => m.ident.same n.ident
  | _, _, _ => false

/-- The items of the right value, if it is a sequence that compares with a list. -/
def againstList : Likeness → Value → Option (List Value)
  | _, .list _ ys => some ys
  | .structural, .tuple ys => some ys
  | .structural, .label l => some l.fields
  | _, _ => none

/-- The items of the right value, if it is a sequence that compares with a tuple. -/
def againstTuple : Likeness → Value → Option (List Value)
  | _, .tuple ys => some ys
  | _, .label l => some l.fields
  | .structural, .list _ ys => some ys
  | _, _ => none

/-- Whether the right value leads the comparison. In equality a label leads a tuple, on whichever
side it stands. -/
def ledByRight (how : Likeness) (reversed : Bool) (a b : Value) : Bool :=
  match how, a, b with
  | .strict, .tuple _, .label _ => true
  | .strict, .label _, .tuple _ => false
  | _, _, _ => reversed

/-- A truth value is like a truth value only, and equal to the number it counts as. -/
def boolAgainst (how : Likeness) (p : Bool) : Value → Bool
  | .bool q => p == q
  | b =>
    match how, b.number? with
    | .strict, some y => (Number.int (if p then 1 else 0)).eqv y
    | _, _ => false

/-- A number is like the numbers of its value, truth values aside. -/
def numberAgainst (how : Likeness) (x : Number) : Value → Bool
  | .bool q => how == .strict && x.eqv (.int (if q then 1 else 0))
  | b =>
    match b.number? with
    | some y => x.eqv y
    | none => false

/-- An uncompiled expression equals its like, and is like a compiled one too. -/
def regexAgainst (how : Likeness) (p : Pattern) (flags : PatternFlags) (b : Value) : Bool :=
  match how, b with
  | .strict, .regex q flags' => p == q && flags == flags'
  | .structural, b => (Value.regex p flags).expression? == b.expression?
  | _, _ => false

/-- A compiled expression equals its like, and is like an uncompiled one too. -/
def compiledAgainst (how : Likeness) (p : Pattern) (flags : PatternFlags) (b : Value) : Bool :=
  match how, b with
  | .strict, .compiled q flags' => p == q && flags == flags'
  | .structural, b => (Value.compiled p flags).expression? == b.expression?
  | _, _ => false

/-- How two mappings compare, by their kinds. -/
inductive MappingRule
  /-- By structure, going through the left or the right one. -/
  | structural (fromLeft : Bool)
  /-- As sequences of entries. -/
  | inOrder
  /-- Key by key. -/
  | byKey

/-- Documents compare by structure with every mapping, ordered mappings with their like as
sequences, all others key by key. By likeness the left mapping is gone through; by equality
it is the document, the left one if both are. -/
def mappingRule (how : Likeness) (reversed : Bool) (m n : MappingKind) : MappingRule :=
  match how with
  | .structural => .structural !reversed
  | .strict =>
    if m = .document && n = .document then .structural !reversed
    else if m = .document then .structural true
    else if n = .document then .structural false
    else if m = .ordered && n = .ordered then .inOrder
    else .byKey

end Likeness

/-- Whether all of several comparisons hold; the first that does not ends them. -/
def Checked.all : List (Checked Bool) → Checked Bool
  | [] => .ok true
  | c :: cs => do
    if ← c then Checked.all cs else return false

/-- The comparisons made for a mapping's slots, read off in the order of another's: a key with
no value cannot be looked up, and one that was not compared differs. -/
def Slot.readOff (compared : List (Option Key × Checked Bool)) (s : Slot) : Checked Bool :=
  match s.value, s.key.key? with
  | some _, some k => ((compared.find? fun r => r.1 == some k).map (·.2)).getD (.ok false)
  | _, _ => .error .unsupported

mutual

/-- Compares two values; `reversed` says that the right one is the left side of the comparison
that is asked for. -/
def Value.compare (how : Likeness) (reversed : Bool) : Value → Value → Checked Bool
  | .null, b => .ok (match b with | .null => true | _ => false)
  | .bool p, b => .ok (how.boolAgainst p b)
  | .int n, b => .ok (how.numberAgainst (.int n.value) b)
  | .float x _, b => .ok (how.numberAgainst (.float x) b)
  | .text s, b => .ok (match b with | .text t => s == t | _ => false)
  | .bytes bs, b => .ok (match b with | .bytes cs => bs == cs | _ => false)
  | .list _ xs, b =>
    match how.againstList b with
    | some ys => if xs.length = ys.length then Value.compareItems how reversed xs ys else .ok false
    | none => .ok false
  | .tuple xs, b =>
    match how.againstTuple b with
    | some ys =>
      if how = .strict || xs.length = ys.length then
        Value.compareItems how (how.ledByRight reversed (.tuple xs) b) xs ys
      else .ok false
    | none => .ok false
  | .mapping m, b =>
    match b with
    | .mapping n => Mapping.compare how reversed m n
    | _ => .ok false
  | .regex p flags, b => .ok (how.regexAgainst p flags b)
  | .compiled p flags, b => .ok (how.compiledAgainst p flags b)
  | .label l, b =>
    match how.againstTuple b with
    | some ys => Label.compareFields how (how.ledByRight reversed (.label l) b) l ys
    | none => .ok false
  | .labels s, b => .ok (match b with | .labels t => s.sameLabels t | _ => false)
  | .server s, b =>
    match b with
    | .server t => Server.compare reversed s t
    | _ => .ok false
  | .builder x, b => .ok (match b with | .builder y => x.ident == y.ident | _ => false)
  | .cluster x, b => .ok (match b with | .cluster y => x.ident == y.ident | _ => false)
  | .preference p, b => .ok (match b with | .preference q => p.same q | _ => false)
  | .average x, b => .ok (match b with | .average y => x.ident == y.ident | _ => false)
  | .reply x, b => .ok (match b with | .reply y => x.ident == y.ident | _ => false)
  | .settings x, b => .ok (match b with | .settings y => x.ident == y.ident | _ => false)
  | .source x, b => .ok (match b with | .source y => Key.ofSource x == Key.ofSource y | _ => false)
  | .stranger i, b => .ok (match b with | .stranger j => i == j | _ => false)
  | .mode m, b => .ok (match b with | .mode n => m == n | _ => false)
  | .serverType t, b => .ok (match b with | .serverType u => t == u | _ => false)
  | .clusterType t, b => .ok (match b with | .clusterType u => t == u | _ => false)
termination_by structural left => left

/-- Compares two runs of values, position by position. -/
def Value.compareItems (how : Likeness) (reversed : Bool) :
    List Value → List Value → Checked Bool
  | [], [] => .ok true
  | x :: xs, y :: ys =>
    if how.exempt x y then Value.compareItems how reversed xs ys
    else do
      if ← Value.compare how reversed x y then Value.compareItems how reversed xs ys
      else return false
  | _, _ => .ok false
termination_by structural left => left

/-- Compares the fields of a label with a run of values. -/
def Label.compareFields (how : Likeness) (reversed : Bool) :
    Label → List Value → Checked Bool
  | ⟨name, value⟩, ys =>
    if how = .structural && ys.length != 2 then .ok false
    else
      match ys with
      | [] => .ok false
      | y :: ys => do
        let sameName ←
          if how.exempt name y then .ok true else Value.compare how reversed name y
        if !sameName then return false
        match ys with
        | [] => return false
        | z :: zs =>
          let sameValue ←
            if how.exempt value z then .ok true else Value.compare how reversed value z
          return sameValue && zs.isEmpty
termination_by structural left => left

/-- Compares the value of each slot that stores one with what another mapping stores under the
same key. -/
def Slot.compareAll (how : Likeness) (reversed : Bool) (other : Mapping) :
    List Slot → List (Option Key × Checked Bool)
  | [] => []
  | ⟨key, none⟩ :: rest =>
    (key.key?, .error .unsupported) :: Slot.compareAll how reversed other rest
  | ⟨key, some v⟩ :: rest =>
    let result :=
      match key.key?.bind other.lookup? with
      | none => .ok false
      | some w => if how.exempt v w then .ok true else Value.compare how reversed v w
    (key.key?, result) :: Slot.compareAll how reversed other rest
termination_by structural left => left

/-- Compares two mappings by the rule for their kinds. -/
def Mapping.compare (how : Likeness) (reversed : Bool) : Mapping → Mapping → Checked Bool
  | ⟨kind, ident, slots⟩, n =>
    let m : Mapping := ⟨kind, ident, slots⟩
    match how.mappingRule reversed kind n.kind with
    | .structural fromLeft =>
      if m.sameKeys n then
        let compared := Slot.compareAll .structural (!fromLeft) n slots
        Checked.all
          (if fromLeft then compared.map (·.2) else n.slots.map (Slot.readOff compared))
      else .ok false
    | .inOrder =>
      if slots.length = n.slots.length && m.keys == n.keys then
        Checked.all (((Slot.compareAll .strict reversed n slots).filter fun r => r.1.isSome).map
          (·.2))
      else .ok false
    | .byKey =>
      if m.keys.length = n.keys.length then
        let compared := (Slot.compareAll .strict reversed n slots).filter fun r => r.1.isSome
        Checked.all
          (if reversed then
            (n.slots.filter fun s => s.value.isSome).map (Slot.readOff compared)
          else compared.map (·.2))
      else .ok false
termination_by structural left => left

/-- Compares two server descriptions field by field. -/
def Server.compare (reversed : Bool) : Server → Server → Checked Bool
  | ⟨_, address, reachable, primary, secondary, ping, labels, maxDocumentSize⟩, t =>
    Checked.all [
      if Likeness.strict.exempt address t.address then .ok true
      else Value.compare .strict reversed address t.address,
      if Likeness.strict.exempt reachable t.reachable then .ok true
      else Value.compare .strict reversed reachable t.reachable,
      if Likeness.strict.exempt primary t.primary then .ok true
      else Value.compare .strict reversed primary t.primary,
      if Likeness.strict.exempt secondary t.secondary then .ok true
      else Value.compare .strict reversed secondary t.secondary,
      if Likeness.strict.exempt ping t.ping then .ok true
      else Value.compare .strict reversed ping t.ping,
      .ok (labels.sameLabels t.labels),
      if Likeness.strict.exempt maxDocumentSize t.maxDocumentSize then .ok true
      else Value.compare .strict reversed maxDocumentSize t.maxDocumentSize]
termination_by structural left => left

end

namespace Value

/-- Equality of values. -/
def equals (a b : Value) : Checked Bool := compare .strict false a b

/-- Equality of values that are held by a container. -/
def heldEquals (a b : Value) : Checked Bool :=
  if Likeness.strict.exempt a b then .ok true else a.equals b

/-- Structural likeness of document values. -/
def alike (a b : Value) : Checked Bool := compare .structural false a b

/-- Whether one of the held values equals a given one; the first that does ends the search. -/
def isAmong (x : Value) : List Value → Checked Bool
  | [] => .ok false
  | v :: vs => do
    if ← heldEquals v x then return true else isAmong x vs

/-- Whether a run of characters or bytes occurs in another. -/
def occursIn {α : Type} [BEq α] (needle : List α) : List α → Bool
  | [] => needle.isEmpty
  | c :: cs => needle.isPrefixOf (c :: cs) || occursIn needle cs

/-- Membership: of an item in a sequence, a key in a mapping, a label in a label set, a text
in a text. -/
def contains (container x : Value) : Checked Bool :=
  match container with
  | .list _ xs => isAmong x xs
  | .tuple xs => isAmong x xs
  | .label l => isAmong x l.fields
  | .labels s =>
    match x.key? with
    | some k => .ok (s.keys.contains (some k))
    | none => .error .unsupported
  | .mapping m =>
    match x.key? with
    | some k => .ok (m.lookup? k).isSome
    | none => .error .unsupported
  | .text s =>
    match x with
    | .text t => .ok (occursIn t.toList s.toList)
    | _ => .error .unsupported
  | .bytes bs =>
    match x with
    | .bytes cs => .ok (occursIn cs bs)
    | .bool b => .ok (bs.contains (if b then 1 else 0))
    | .int n =>
      if 0 ≤ n.value && n.value < 256 then .ok (bs.contains (UInt8.ofNat n.value.toNat))
      else .error .illFormed
    | _ => .error .unsupported
  | _ => .error .unsupported

end Value

/-- Addresses that have been checked are equal when host and port are. -/
theorem Address.toValue_equals (a b : Address) :
    a.toValue.equals b.toValue =
      .ok (a.host == b.host && decide (a.port.value = b.port.value)) := by
  obtain ⟨h, ⟨p, _⟩⟩ := a
  obtain ⟨h', ⟨p', _⟩⟩ := b
  by_cases e : h = h' <;> by_cases q : p = p' <;>
    simp [toValue, Value.equals, Value.compare, Likeness.againstTuple, Value.compareItems,
      Likeness.exempt, Likeness.numberAgainst, Value.number?, Number.eqv_int, bind, Except.bind,
      pure, Except.pure, e, q]

/-- Likeness of mappings: the same keys, and alike values under each. -/
def Mapping.alike (m n : Mapping) : Checked Bool := Mapping.compare .structural false m n

end ReadRouting
