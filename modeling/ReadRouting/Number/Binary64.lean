set_option autoImplicit false
set_option relaxedAutoImplicit false

/-!
# Binary64 numbers and what they stand for

The link between binary64 numbers and exact arithmetic: what number a bit pattern stands for,
which binary64 number is nearest to an integer, and how an exact number is rounded or cut to
an integer.

## Main definitions

* `ReadRouting.Extended` — a rational, one of the two infinities, or not a number.
* `ReadRouting.Binary64.exact` — what a binary64 number stands for.
* `ReadRouting.Binary64.ofInt?` — the nearest binary64 number to an integer, ties to even.
* `ReadRouting.roundHalfEven`, `ReadRouting.truncate` — to the nearest integer, and towards
  zero.

## Main results

* `ReadRouting.Extended.eqv_iff` — numbers are equal if they are the same; what is not a number
  differs even from itself.
* `ReadRouting.Extended.lt_trans`, `ReadRouting.Extended.lt_self` — the order is strict.

## Implementation notes

Powers are written `Nat.pow`: the operator sign would stand for a different instance where a
larger algebraic hierarchy is in scope.
-/

namespace ReadRouting

/-- What a binary64 number stands for. -/
inductive Extended
  | nan
  | infinite (negative : Bool)
  | finite (q : Rat)
  deriving DecidableEq

namespace Extended

/-- Strict order; nothing is below or above what is not a number. -/
def lt : Extended → Extended → Bool
  | finite p, finite q => decide (p < q)
  | infinite true, infinite false => true
  | infinite true, finite _ => true
  | finite _, infinite false => true
  | _, _ => false

/-- Equality of numbers; what is not a number equals nothing. -/
def eqv : Extended → Extended → Bool
  | finite p, finite q => decide (p = q)
  | infinite a, infinite b => a == b
  | _, _ => false

/-- Below or equal. -/
def le (a b : Extended) : Bool := a.lt b || a.eqv b

/-- Equality does not depend on the side. -/
theorem eqv_comm (a b : Extended) : a.eqv b = b.eqv a := by
  cases a <;> cases b <;> simp [eqv, eq_comm, Bool.beq_comm]

/-- Numbers are equal if they are the same, unless they are not numbers. -/
theorem eqv_iff (a b : Extended) : a.eqv b = true ↔ a = b ∧ a ≠ .nan := by
  cases a <;> cases b <;> simp [eqv]

/-- What is below something is below whatever that is below. -/
theorem lt_trans {a b c : Extended} (hab : a.lt b = true) (hbc : b.lt c = true) :
    a.lt c = true := by
  rcases a with _ | ⟨_ | _⟩ | p <;> rcases b with _ | ⟨_ | _⟩ | q <;>
    rcases c with _ | ⟨_ | _⟩ | r <;> simp [lt] at hab hbc ⊢
  exact Std.lt_trans hab hbc

/-- Nothing is below itself. -/
theorem lt_self (a : Extended) : a.lt a = false := by
  rcases a with _ | ⟨_ | _⟩ | p
  · rfl
  · rfl
  · rfl
  · exact decide_eq_false Rat.lt_irrefl

end Extended

/-- The nearest integer; of two equally near, the even one. -/
def roundHalfEven (q : Rat) : Int :=
  let twice := 2 * (q.num % q.den)
  let below := q.num / q.den
  if twice < q.den then below
  else if (q.den : Int) < twice then below + 1
  else if below % 2 = 0 then below else below + 1

/-- The integer part: the fraction is cut off towards zero. -/
def truncate (q : Rat) : Int := Int.tdiv q.num q.den

namespace Binary64

/-- The significand and the power of two that a finite bit pattern is made of, sign aside. -/
def parts (bits : Nat) : Nat × Int :=
  let field : Nat := bits / Nat.pow 2 52 % Nat.pow 2 11
  let fraction : Nat := bits % Nat.pow 2 52
  if field = 0 then (fraction, -1074) else (fraction + Nat.pow 2 52, (field : Int) - 1075)

/-- The rational `m · 2 ^ e`. -/
def scaled (m : Int) (e : Int) : Rat :=
  if 0 ≤ e then ((m * Nat.pow 2 e.toNat : Int) : Rat) else mkRat m (Nat.pow 2 (-e).toNat)

/-- What a bit pattern stands for. -/
def exactBits (bits : Nat) : Extended :=
  let negative := decide (bits / Nat.pow 2 63 % 2 = 1)
  if bits / Nat.pow 2 52 % Nat.pow 2 11 = Nat.pow 2 11 - 1 then
    if bits % Nat.pow 2 52 = 0 then .infinite negative else .nan
  else
    let (m, e) := parts bits
    .finite (scaled (if negative then -(m : Int) else m) e)

/-- What a binary64 number stands for. -/
def exact (x : Float) : Extended := exactBits x.toBits.toNat

/-- Half of `2 ^ k` rounds to even, more goes up: `n / 2 ^ k` to the nearest integer. -/
def shiftHalfEven (n k : Nat) : Nat :=
  let q := n / Nat.pow 2 k
  let twice := 2 * (n % Nat.pow 2 k)
  if twice < Nat.pow 2 k then q
  else if Nat.pow 2 k < twice then q + 1
  else if q % 2 = 0 then q else q + 1

/-- The bit pattern, sign aside, of the nearest binary64 number to a positive number, unless
that is too large. A significand that rounds up to `2 ^ 53` carries into the exponent by the
addition. -/
def bitsOfNat? (n : Nat) : Option Nat :=
  let log := n.log2
  let significand :=
    if log ≤ 52 then n * Nat.pow 2 (52 - log) else shiftHalfEven n (log - 52)
  let bits := (log + 1022) * Nat.pow 2 52 + significand
  if bits < (Nat.pow 2 11 - 1) * Nat.pow 2 52 then some bits else none

/-- The nearest binary64 number to an integer, ties to even, unless that is too large. -/
def ofInt? (n : Int) : Option Float :=
  if n = 0 then some (Float.ofBits 0)
  else (bitsOfNat? n.natAbs).map fun bits =>
    Float.ofBits (UInt64.ofNat (if n < 0 then bits + Nat.pow 2 63 else bits))

/-! ## Rounding -/

/-- A half goes to the even neighbour. -/
example : roundHalfEven (5 / 2) = 2 ∧ roundHalfEven (7 / 2) = 4 ∧ roundHalfEven (-1 / 2) = 0 := by
  decide +kernel

/-- The significand that rounds up to the next power of two carries. -/
example : bitsOfNat? (Nat.pow 2 54 - 1) = bitsOfNat? (Nat.pow 2 54) := by decide +kernel

/-- Beyond the largest number there is none. -/
example : bitsOfNat? (Nat.pow 2 1024 - Nat.pow 2 970) = none := by decide +kernel

end Binary64

end ReadRouting
