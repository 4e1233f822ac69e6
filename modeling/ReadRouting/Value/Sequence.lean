import ReadRouting.Fault

set_option autoImplicit false
set_option relaxedAutoImplicit false

/-!
# Truth, length and iteration

What any value can be asked without knowing its kind: whether it counts as true, how long it
is, and what it yields when it is gone through.

## Main definitions

* `ReadRouting.Value.isTrue` — everything counts as true but null, false, zeros and whatever
  is empty; what is not a number is true.
* `ReadRouting.Value.length` — the number of items, for values that have any.
* `ReadRouting.Value.items` — a text yields its characters, a byte string its numbers, a
  mapping its keys in order, a label set its labels.
* `ReadRouting.Value.pair` — the two items of a value that yields exactly two.
* `ReadRouting.position` — the position that a number stands for, from either end.
* `ReadRouting.Value.itemAt` — the item of a sequence at a position.
-/

namespace ReadRouting

/-- The position among `size` items that a number stands for; a negative one counts from the
end. -/
def position (i : Int) (size : Nat) : Checked Nat :=
  let fromStart := if i < 0 then i + size else i
  if 0 ≤ fromStart && fromStart < size then .ok fromStart.toNat else .error .outOfRange

/-- One of several items, by its position from either end. -/
def pick {α : Type} (xs : List α) (i : Int) : Checked α := do
  match xs[← position i xs.length]? with
  | some a => return a
  | none => throw .outOfRange

namespace Value

/-- What a value yields when it is gone through, if it can be. -/
def items? : Value → Option (List Value)
  | .text s => some (s.toList.map fun c => .text (String.singleton c))
  | .bytes bs => some (bs.map fun b => ofInt b.toNat)
  | .list _ xs => some xs
  | .tuple xs => some xs
  | .label l => some l.fields
  | .labels s => some (s.labels.map .label)
  | .mapping m => some m.order
  | _ => none

/-- What a value yields when it is gone through. -/
def items (v : Value) : Checked (List Value) :=
  match v.items? with
  | some xs => .ok xs
  | none => .error .unsupported

/-- The number of items of a value, if it has items. -/
def length? (v : Value) : Option Nat := v.items?.map List.length

/-- The number of items of a value. -/
def length (v : Value) : Checked Nat :=
  match v.length? with
  | some n => .ok n
  | none => .error .unsupported

/-- Whether a value counts as true. -/
def isTrue : Value → Bool
  | .null => false
  | .bool b => b
  | .int n => n.value != 0
  | .float x _ => !(x == 0.0)
  | v =>
    match v.length? with
    | some n => n != 0
    | none => true

/-- The two items of a value that yields exactly two. -/
def pair (v : Value) : Checked (Value × Value) := do
  match ← v.items with
  | [a, b] => .ok (a, b)
  | _ => .error .illFormed

/-- The items of a value that keeps them at positions: sets and mappings do not. -/
def sequence? : Value → Option (List Value)
  | .labels _ => none
  | .mapping _ => none
  | v => v.items?

/-- The item of a sequence at a position, which must be an integer or a truth value. -/
def itemAt (v index : Value) : Checked Value :=
  match v.sequence?, index with
  | some xs, .int n => pick xs n.value
  | some xs, .bool b => pick xs (if b then 1 else 0)
  | _, _ => .error .unsupported

/-- The server description that a value must be. -/
def asServer : Value → Checked Server
  | .server s => .ok s
  | _ => .error .noSuchField

end Value

end ReadRouting
