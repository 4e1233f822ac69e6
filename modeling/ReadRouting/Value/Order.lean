import ReadRouting.Value.Equality

set_option autoImplicit false
set_option relaxedAutoImplicit false

/-!
# Order

Which of two values is the smaller, for the kinds that have an order: numbers by numeric
value, texts by code point, byte strings by byte, lists among lists and tuples among tuples by
their first difference. Nothing is smaller or greater than what is not a number.

## Main definitions

* `ReadRouting.Value.less` — strict order.
* `ReadRouting.Value.atMost` — order or equality of a value and a number.

## Main results

* `ReadRouting.Value.less_of_number`, `ReadRouting.Value.atMost_of_number` — on numbers neither
  fails, and both are the order of numbers.
-/

namespace ReadRouting

/-- Whether one sequence comes strictly before another in a dictionary. -/
def strictlyPrecedes (a b : List Int) : Bool := a != b && precedes a b

/-- Whether a text comes strictly before another by code points. -/
def textBefore (s t : String) : Bool :=
  strictlyPrecedes (s.toList.map fun c => (c.toNat : Int)) (t.toList.map fun c => (c.toNat : Int))

/-- Whether a byte string comes strictly before another. -/
def bytesBefore (s t : List UInt8) : Bool :=
  strictlyPrecedes (s.map fun b => (b.toNat : Int)) (t.map fun b => (b.toNat : Int))

/-- Whether a number is below a value, which must be a number too. -/
def Number.lessThan (x : Number) (b : Value) : Checked Bool :=
  match b.number? with
  | some y => .ok (x.lt y)
  | none => .error .unsupported

mutual

/-- Strict order of values. -/
def Value.less : Value → Value → Checked Bool
  | .bool p, b => (Number.int (if p then 1 else 0)).lessThan b
  | .int n, b => (Number.int n.value).lessThan b
  | .float x _, b => (Number.float x).lessThan b
  | .text s, b =>
    match b with
    | .text t => .ok (textBefore s t)
    | _ => .error .unsupported
  | .bytes bs, b =>
    match b with
    | .bytes cs => .ok (bytesBefore bs cs)
    | _ => .error .unsupported
  | .list _ xs, b =>
    match Likeness.strict.againstList b with
    | some ys => Value.lessItems xs ys
    | none => .error .unsupported
  | .tuple xs, b =>
    match Likeness.strict.againstTuple b with
    | some ys => Value.lessItems xs ys
    | none => .error .unsupported
  | .label ⟨name, value⟩, b =>
    match Likeness.strict.againstTuple b with
    | none => .error .unsupported
    | some [] => .ok false
    | some (y :: ys) => do
      if !(← name.heldEquals y) then Value.less name y
      else
        match ys with
        | [] => return false
        | z :: zs =>
          if !(← value.heldEquals z) then Value.less value z else return !zs.isEmpty
  | _, _ => .error .unsupported
termination_by structural left => left

/-- The order of the first two items that differ; a run comes before its extensions. -/
def Value.lessItems : List Value → List Value → Checked Bool
  | [], ys => .ok (!ys.isEmpty)
  | _ :: _, [] => .ok false
  | x :: xs, y :: ys => do
    if ← x.heldEquals y then Value.lessItems xs ys else Value.less x y
termination_by structural left => left

end

/-- The order of values that are numbers is the order of numbers. -/
theorem Value.less_of_number {a b : Value} {x y : Number} (ha : a.number? = some x)
    (hb : b.number? = some y) : a.less b = .ok (x.lt y) := by
  cases a <;> cases ha <;> simp [less, Number.lessThan, hb]

/-- Whether a value, which must be a number, is at most a given number. -/
def Value.atMost (v : Value) (bound : Number) : Checked Bool :=
  match v.number? with
  | some x => .ok (x.le bound)
  | none => .error .unsupported

/-- A value that is a number is compared with a bound as a number. -/
theorem Value.atMost_of_number {a : Value} {x : Number} (ha : a.number? = some x)
    (bound : Number) : a.atMost bound = .ok (x.le bound) := by
  rw [atMost, ha]

end ReadRouting
