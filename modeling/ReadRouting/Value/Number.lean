import ReadRouting.Fault
import ReadRouting.Number.Binary64

set_option autoImplicit false
set_option relaxedAutoImplicit false

/-!
# Values as numbers

Integers, truth values and floats are numbers. They are compared by the exact numbers they
stand for; a computation with a float rounds the other operand to a float first.

## Main definitions

* `ReadRouting.Number` — an integer or a float.
* `ReadRouting.Value.number?` — the number that a value is.
* `ReadRouting.Number.exact` — the exact number it stands for.
* `ReadRouting.Number.toFloat` — the nearest float, unless the integer is too large.
* `ReadRouting.Number.add`, `ReadRouting.Number.scale` — the sum with an integer, and the
  product with a float.
* `ReadRouting.Number.round`, `ReadRouting.Number.truncate` — to the nearest integer, ties to
  even, and towards zero.

## Main results

* `ReadRouting.Number.eqv_int`, `lt_int`, `le_int` — integers compare as integers.
-/

namespace ReadRouting

/-- An integer or a float. -/
inductive Number
  | int (n : Int)
  | float (x : Float)

namespace Number

/-- The exact number that a number stands for. -/
def exact : Number → Extended
  | int n => .finite n
  | float x => Binary64.exact x

/-- Numeric equality. -/
def eqv (a b : Number) : Bool := a.exact.eqv b.exact

/-- Numeric order. -/
def lt (a b : Number) : Bool := a.exact.lt b.exact

/-- Numeric order or equality. -/
def le (a b : Number) : Bool := a.exact.le b.exact

/-- Integers are equal as numbers when they are equal. -/
theorem eqv_int (m n : Int) : (int m).eqv (int n) = decide (m = n) := by
  simp [eqv, exact, Extended.eqv]

/-- The order of integers as numbers is their own. -/
theorem lt_int (m n : Int) : (int m).lt (int n) = decide (m < n) := by
  rw [lt, exact, exact, Extended.lt, decide_eq_decide]
  exact Rat.intCast_lt_intCast

/-- The order of integers as numbers is their own. -/
theorem le_int (m n : Int) : (int m).le (int n) = decide (m ≤ n) := by
  have hlt : (int m).lt (int n) = decide (m < n) := lt_int m n
  have heq : (int m).eqv (int n) = decide (m = n) := eqv_int m n
  have hle : (int m).le (int n) = ((int m).lt (int n) || (int m).eqv (int n)) := rfl
  rw [hle, hlt, heq, Bool.eq_iff_iff, Bool.or_eq_true, decide_eq_true_iff, decide_eq_true_iff,
    decide_eq_true_iff]
  omega

/-- The nearest float, unless the number is too large to have one. -/
def toFloat : Number → Checked Float
  | int n =>
    match Binary64.ofInt? n with
    | some x => .ok x
    | none => .error .tooLarge
  | float x => .ok x

/-- The sum with an integer. -/
def add (a : Number) (n : Int) : Checked Number :=
  match a with
  | int m => .ok (int (m + n))
  | float x => do
    let y ← (int n).toFloat
    return float (x + y)

/-- The product with an integer. -/
def timesInt (a : Number) (n : Int) : Checked Number :=
  match a with
  | int m => .ok (int (m * n))
  | float x => do
    let y ← (int n).toFloat
    return float (x * y)

/-- The product with a float. -/
def scale (weight : Float) (a : Number) : Checked Float := do
  let x ← a.toFloat
  return weight * x

/-- The integer that an exact number is turned into by `f`, if it is finite. -/
def toIntBy (f : Rat → Int) : Number → Checked Int
  | int n => .ok n
  | float x =>
    match Binary64.exact x with
    | .finite q => .ok (f q)
    | .infinite _ => .error .tooLarge
    | .nan => .error .illFormed

/-- The nearest integer, ties to even. -/
def round : Number → Checked Int := toIntBy roundHalfEven

/-- The integer part, cut off towards zero. -/
def truncate : Number → Checked Int := toIntBy ReadRouting.truncate

end Number

namespace Value

/-- The number that a value is; a truth value is one or zero. -/
def number? : Value → Option Number
  | .bool b => some (.int (if b then 1 else 0))
  | .int n => some (.int n.value)
  | .float x _ => some (.float x)
  | _ => none

/-- The number that a value must be. -/
def number (v : Value) : Checked Number :=
  match v.number? with
  | some n => .ok n
  | none => .error .unsupported

end Value

end ReadRouting
