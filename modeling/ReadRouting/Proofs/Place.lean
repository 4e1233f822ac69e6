import Mathlib.Data.Rat.Defs
import ReadRouting.Proofs.Update

set_option autoImplicit false
set_option relaxedAutoImplicit false

/-!
# Places of arbitrary addresses

A server description keeps its address as it was given, and a snapshot may be asked for anything.
What is compared with a checked address is a pair of a text and a number, or else differs from it;
and the comparison never fails. So every value names one place at most.

## Main definitions

* `ReadRouting.Value.integer?` — the integer that a value equals, if there is one.
* `ReadRouting.Value.place?` — the host and the port that a value stands for as an address.

## Main results

* `ReadRouting.Value.equals_toValue`, `ReadRouting.Value.toValue_equals` — a value equals a checked
  address exactly if it stands for its place, whichever of them is on the left.
-/

namespace ReadRouting

/-- The integer that a number is equal to, if there is one. -/
def Number.integer? (x : Number) : Option Int :=
  match x.exact with
  | .finite q => if q.den = 1 then some q.num else none
  | _ => none

/-- A number equals the integer that it is, and no other. -/
lemma Number.eqv_int_eq (x : Number) (n : Int) :
    x.eqv (.int n) = decide (x.integer? = some n) := by
  unfold eqv integer?
  cases x.exact with
  | nan => rfl
  | infinite b => rfl
  | finite q =>
    have hq : q = n ↔ q.den = 1 ∧ q.num = n := by
      constructor
      · rintro rfl
        exact ⟨Rat.den_intCast n, Rat.num_intCast n⟩
      · rintro ⟨hden, hnum⟩
        rw [← hnum]
        exact ((Rat.den_eq_one_iff q).mp hden).symm
    change decide (q = n) = _
    by_cases hden : q.den = 1 <;> simp [hq, hden]

/-- Numeric equality does not depend on the side. -/
lemma Number.eqv_comm (x y : Number) : x.eqv y = y.eqv x := Extended.eqv_comm x.exact y.exact

namespace Value

variable {v : Value}

/-- The text that a value is. -/
def text? : Value → Option String
  | .text s => some s
  | _ => none

/-- The integer that a value is equal to, if there is one. -/
def integer? (v : Value) : Option Int := v.number?.bind Number.integer?

/-- The host and the port that a pair of items stands for. -/
def placeOf? : List Value → Option (String × Int)
  | [host, port] => host.text?.bind fun h => port.integer?.map fun n => (h, n)
  | _ => none

/-- The host and the port that a value stands for as an address. -/
def place? (v : Value) : Option (String × Int) := (Likeness.strict.againstTuple v).bind placeOf?

/-- A pair stands for a place if its items are the host and a number that equals the port. -/
lemma placeOf?_pair (x y : Value) (host : String) (port : Int) :
    placeOf? [x, y] = some (host, port) ↔ x.text? = some host ∧ y.integer? = some port := by
  simp [placeOf?, Option.bind_eq_some_iff]

/-! ## Comparison with one field of an address -/

/-- A value equals a text if it is that text. -/
lemma compare_text (reversed : Bool) (v : Value) (s : String) :
    compare .strict reversed v (.text s) = .ok (decide (v.text? = some s)) := by
  cases v with
  | text t =>
    have htext : (t == s) = decide ((Value.text t).text? = some s) := by
      rw [Bool.eq_iff_iff, beq_iff_eq, decide_eq_true_iff, text?, Option.some.injEq]
    exact congrArg Except.ok htext
  | _ => rfl

/-- The same with the text on the left. -/
lemma text_compare (reversed : Bool) (s : String) (v : Value) :
    compare .strict reversed (.text s) v = .ok (decide (v.text? = some s)) := by
  cases v with
  | text t =>
    have htext : (s == t) = decide ((Value.text t).text? = some s) := by
      rw [Bool.eq_iff_iff, beq_iff_eq, decide_eq_true_iff, text?, Option.some.injEq]
      exact ⟨Eq.symm, Eq.symm⟩
    exact congrArg Except.ok htext
  | _ => rfl

/-- A value equals an integer if it is a number that does. -/
lemma compare_int (reversed : Bool) (v : Value) (n : Integer) :
    compare .strict reversed v (.int n) = .ok (decide (v.integer? = some n.value)) := by
  cases v with
  | bool b => exact congrArg Except.ok (Number.eqv_int_eq (.int (if b then 1 else 0)) n.value)
  | int m => exact congrArg Except.ok (Number.eqv_int_eq (.int m.value) n.value)
  | float x i => exact congrArg Except.ok (Number.eqv_int_eq (.float x) n.value)
  | _ => rfl

/-- The same with the integer on the left. -/
lemma int_compare (reversed : Bool) (n : Integer) (v : Value) :
    compare .strict reversed (.int n) v = .ok (decide (v.integer? = some n.value)) := by
  rw [← compare_int reversed v n]
  cases v with
  | bool b => exact congrArg Except.ok (Number.eqv_comm (.int n.value) (.int (if b then 1 else 0)))
  | int m => exact congrArg Except.ok (Number.eqv_comm (.int n.value) (.int m.value))
  | float x i => exact congrArg Except.ok (Number.eqv_comm (.int n.value) (.float x))
  | _ => rfl

/-! ## Comparison with an address -/

/-- The first two items decide whether the others are compared. -/
lemma compareItems_cons {how : Likeness} {reversed : Bool} {x y : Value} {b : Bool}
    (hexempt : how.exempt x y = false) (h : compare how reversed x y = .ok b)
    (xs ys : List Value) : compareItems how reversed (x :: xs) (y :: ys) =
      if b then compareItems how reversed xs ys else .ok false := by
  rw [compareItems, hexempt, h]
  cases b <;> rfl

/-- Nothing is the same object as a text. -/
lemma exempt_text (x : Value) (s : String) : Likeness.strict.exempt x (.text s) = false := by
  cases x <;> rfl

/-- Nothing is the same object as an integer. -/
lemma exempt_int (x : Value) (n : Integer) : Likeness.strict.exempt x (.int n) = false := by
  cases x <;> rfl

/-- Items that are compared with the fields of an address. -/
lemma compareItems_address (reversed : Bool) (xs : List Value) (a : Address) :
    compareItems .strict reversed xs [.text a.host, .int a.port] =
      .ok (decide (placeOf? xs = some a.place)) := by
  match xs with
  | [] => rfl
  | [x] =>
    rw [compareItems_cons (exempt_text x a.host) (compare_text reversed x a.host)]
    split <;> rfl
  | [x, y] =>
    rw [compareItems_cons (exempt_text x a.host) (compare_text reversed x a.host),
      compareItems_cons (exempt_int y a.port) (compare_int reversed y a.port), Address.place]
    simp only [placeOf?_pair]
    by_cases hx : x.text? = some a.host <;> by_cases hy : y.integer? = some a.port.value <;>
      simp [hx, hy, compareItems]
  | x :: y :: z :: rest =>
    rw [compareItems_cons (exempt_text x a.host) (compare_text reversed x a.host),
      compareItems_cons (exempt_int y a.port) (compare_int reversed y a.port)]
    split
    · split <;> rfl
    · rfl

/-- The same with the fields on the left. -/
lemma address_compareItems (reversed : Bool) (a : Address) (ys : List Value) :
    compareItems .strict reversed [.text a.host, .int a.port] ys =
      .ok (decide (placeOf? ys = some a.place)) := by
  match ys with
  | [] => rfl
  | [y] =>
    rw [compareItems_cons rfl (text_compare reversed a.host y)]
    split <;> rfl
  | [y, z] =>
    rw [compareItems_cons rfl (text_compare reversed a.host y),
      compareItems_cons rfl (int_compare reversed a.port z), Address.place]
    simp only [placeOf?_pair]
    by_cases hy : y.text? = some a.host <;> by_cases hz : z.integer? = some a.port.value <;>
      simp [hy, hz, compareItems]
  | x :: y :: z :: rest =>
    rw [compareItems_cons rfl (text_compare reversed a.host x),
      compareItems_cons rfl (int_compare reversed a.port y)]
    split
    · split <;> rfl
    · rfl

/-- The fields of a label are compared with an address as the items of a tuple are. -/
lemma compareFields_address (reversed : Bool) (l : Label) (a : Address) :
    Label.compareFields .strict reversed l [.text a.host, .int a.port] =
      compareItems .strict reversed l.fields [.text a.host, .int a.port] := by
  obtain ⟨name, value⟩ := l
  rw [Label.fields, compareItems_cons (exempt_text name a.host) (compare_text reversed name a.host),
    compareItems_cons (exempt_int value a.port) (compare_int reversed value a.port)]
  simp only [Label.compareFields, exempt_text, exempt_int, compare_text, compare_int, reduceCtorEq,
    decide_false, Bool.false_and, Bool.false_eq_true, if_false]
  by_cases hname : name.text? = some a.host
  · by_cases hvalue : value.integer? = some a.port.value
    · rw [decide_eq_true hname, decide_eq_true hvalue]
      rfl
    · rw [decide_eq_true hname, decide_eq_false hvalue]
      rfl
  · rw [decide_eq_false hname]
    rfl

/-- A value equals a checked address exactly if it stands for its place. -/
theorem equals_toValue (v : Value) (a : Address) :
    v.equals a.toValue = .ok (decide (v.place? = some a.place)) := by
  cases v with
  | tuple xs => exact compareItems_address false xs a
  | label l => exact (compareFields_address false l a).trans (compareItems_address false l.fields a)
  | _ => rfl

/-- The same with the address on the left. -/
theorem toValue_equals (a : Address) (v : Value) :
    a.toValue.equals v = .ok (decide (v.place? = some a.place)) := by
  cases v with
  | tuple ys => exact address_compareItems false a ys
  | label l => exact address_compareItems true a l.fields
  | _ => rfl

end Value

end ReadRouting
