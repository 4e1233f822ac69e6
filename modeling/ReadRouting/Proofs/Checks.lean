import ReadRouting.Proofs.Results
import ReadRouting.Validation

set_option autoImplicit false
set_option relaxedAutoImplicit false

/-!
# What the checks of options let through

A number that a check lets through is within the bounds of that check, whether it was given as an
integer or as a text of digits.

## Main results

* `ReadRouting.Checked.positive_int`, `ReadRouting.Checked.one_le_of_positive` — integers above
  zero.
* `ReadRouting.Checked.nonneg_of_nonNegative` — integers not below zero.
* `ReadRouting.Checked.address_toValue` — addresses that are given as a pair.
-/

namespace ReadRouting.Checked

variable {option v : Value} {n : Integer} {a : Address}

/-- An integer is positive if it is at least one. -/
theorem positive_int (option : Value) (n : Integer) :
    positive option (.int n) =
      if 1 ≤ n.value then .ok n else .error (.refused (.badOption option .notPositive)) := by
  change (if n.value ≤ 0 then complain option .notPositive else .ok n) = _
  by_cases hn : 1 ≤ n.value
  · rw [if_neg (by omega), if_pos hn]
  · rw [if_pos (by omega), if_neg hn]
    rfl

/-- What passes for a positive integer is at least one. -/
theorem one_le_of_positive (h : positive option v = .ok n) : 1 ≤ n.value := by
  obtain ⟨m, -, h⟩ := bind_eq_ok h
  split at h
  · cases h
  · cases h
    omega

/-- What passes for an integer that is not negative is none. -/
theorem nonneg_of_nonNegative (h : nonNegative option v = .ok n) : 0 ≤ n.value := by
  obtain ⟨m, -, h⟩ := bind_eq_ok h
  split at h
  · cases h
  · cases h
    omega

/-- What passes for an integer that is not negative, or null, is no negative integer. -/
lemma nonneg_of_nonNegativeOrNull (h : nonNegativeOrNull option v = .ok (some n)) :
    0 ≤ n.value := by
  unfold nonNegativeOrNull at h
  split at h
  · cases h
  · obtain ⟨m, hm, h⟩ := bind_eq_ok h
    cases h
    exact nonneg_of_nonNegative hm

/-- An address that is given as the pair of its host and its port is accepted if the port is
positive. -/
theorem address_toValue (option : Value) (a : Address) :
    address option a.toValue =
      if 1 ≤ a.port.value then .ok a else .error (.refused (.badOption option .notPositive)) := by
  have hpair : address option a.toValue =
      positive option (.int a.port) >>= fun port => .ok ⟨a.host, port⟩ := rfl
  rw [hpair, positive_int]
  split <;> rfl

/-- The port of a host and a port that are accepted is positive. -/
lemma one_le_of_hostAndPort {host port : Value} (h : hostAndPort option host port = .ok a) :
    1 ≤ a.port.value := by
  obtain ⟨name, -, h⟩ := bind_eq_ok h
  obtain ⟨number, hnumber, h⟩ := bind_eq_ok h
  cases h
  exact one_le_of_positive hnumber

/-- The port of an address that is not read from a text is positive. -/
lemma one_le_of_address (h : address option v = .ok a) (htext : ∀ s, v ≠ .text s) :
    1 ≤ a.port.value := by
  unfold address at h
  split at h
  · exact absurd rfl (htext _)
  · exact one_le_of_hostAndPort h
  · exact one_le_of_hostAndPort h
  · cases h

end ReadRouting.Checked
