import Mathlib.Tactic.Lemma
import ReadRouting.Text.Numeral

set_option autoImplicit false
set_option relaxedAutoImplicit false

/-!
# Numerals written and read back

The numeral of an integer has ASCII digits only, and a sign if the integer is negative. Reading it
gives the integer back, for every integer that is short enough to be written. A text with a
character that has no place in numerals is read as none.

## Main definitions

* `ReadRouting.Text.isOfNumeral` — the characters that have a place in numerals.

## Main results

* `ReadRouting.Text.readDigits?_of_isDigit` — a run of ASCII digits is read as the number it
  stands for.
* `ReadRouting.Text.readInteger?_toString` — the numeral of an integer is read as the integer.
* `ReadRouting.Text.not_mem_toString` — which characters do not occur in a numeral.
* `ReadRouting.Text.isOfNumeral_of_readInteger?` — what occurs in whatever is read as a numeral.
-/

namespace ReadRouting.Text

variable {c : Char} {cs : List Char}

/-! ## One character -/

/-- An ASCII digit is worth its distance from zero. -/
lemma decimalValue?_of_isDigit (h : c.isDigit = true) :
    decimalValue? c = some (c.toNat - '0'.toNat) := by
  have hrange : 48 ≤ c.toNat ∧ c.toNat < 58 := by
    rw [Char.isDigit, Bool.and_eq_true, decide_eq_true_iff, decide_eq_true_iff] at h
    exact ⟨h.1, Nat.lt_succ_of_le h.2⟩
  have hzero : zeros.find? (fun z => z ≤ c.toNat && c.toNat < z + 10) = some 48 := by
    rw [zeros, List.find?_cons_of_pos]
    simpa using hrange
  rw [decimalValue?, hzero]
  rfl

/-- A visible ASCII character is not blank. -/
lemma isBlank_eq_false (h : 0x20 < c.toNat ∧ c.toNat < 0x80) : isBlank c = false := by
  have hwide : isWideBlank c = false := by
    rw [isWideBlank, wideBlanks]
    simp only [List.any_cons, List.any_nil, Bool.or_false, Bool.or_eq_false_iff,
      Bool.and_eq_false_iff, decide_eq_false_iff_not]
    omega
  rw [isBlank, hwide]
  simp only [Bool.or_false, Bool.or_eq_false_iff, Bool.and_eq_false_iff, decide_eq_false_iff_not]
  omega

/-- Nothing is cut off a text without blanks. -/
lemma trimBlanks_eq_self (h : ∀ c ∈ cs, isBlank c = false) : trimBlanks cs = cs := by
  have hdrop : ∀ ds : List Char, (∀ c ∈ ds, isBlank c = false) → ds.dropWhile isBlank = ds := by
    intro ds hds
    cases ds with
    | nil => rfl
    | cons d rest => rw [List.dropWhile_cons_of_neg]; simp [hds d List.mem_cons_self]
  rw [trimBlanks, hdrop cs h, hdrop cs.reverse fun c hc => h c (List.mem_reverse.mp hc),
    List.reverse_reverse]

/-! ## Runs of digits -/

/-- Of ASCII digits each one counts. -/
lemma digitsAfter_of_isDigit (h : ∀ c ∈ cs, c.isDigit = true) :
    digitsAfter cs = some (cs.map fun c => c.toNat - '0'.toNat) := by
  induction cs with
  | nil => rfl
  | cons c rest ih =>
    have hc : c.isDigit = true := h c List.mem_cons_self
    have hrest := ih fun d hd => h d (List.mem_cons_of_mem c hd)
    have hne : c ≠ '_' := by
      rintro rfl
      cases hc
    rw [digitsAfter, decimalValue?_of_isDigit hc, hrest]
    · rfl
    · rintro d ds rfl
      exact absurd rfl hne

/-- A run of ASCII digits that is not too long is read as the number it stands for. -/
theorem readDigits?_of_isDigit (hne : cs ≠ []) (h : ∀ c ∈ cs, c.isDigit = true)
    (hlength : cs.length ≤ maxDigits) : readDigits? cs = some (Nat.ofDigitChars 10 cs 0) := by
  cases cs with
  | nil => exact absurd rfl hne
  | cons c rest =>
    have hshort : rest.length < maxDigits := hlength
    rw [readDigits?, decimalValue?_of_isDigit (h c List.mem_cons_self),
      digitsAfter_of_isDigit fun d hd => h d (List.mem_cons_of_mem c hd)]
    simp only [Option.bind_eq_bind, Option.bind_some, List.length_map, if_pos hshort,
      List.foldl_map, Nat.ofDigitChars_eq_foldl, List.foldl_cons, Nat.mul_zero, Nat.zero_add]
    rfl

/-- A run of ASCII digits has no sign. -/
lemma readSigned?_of_isDigit (h : ∀ c ∈ cs, c.isDigit = true) :
    readSigned? cs = (readDigits? cs).map Int.ofNat := by
  unfold readSigned?
  split
  · exact absurd (h '+' List.mem_cons_self) (by decide)
  · exact absurd (h '-' List.mem_cons_self) (by decide)
  · rfl

/-! ## The numeral of an integer -/

/-- A natural number below a power of ten has at most so many digits. -/
lemma length_toDigits_le {n k : Nat} (hk : 0 < k) (h : n < Nat.pow 10 k) :
    (Nat.toDigits 10 n).length ≤ k :=
  (Nat.length_toDigits_le_iff (by decide) hk).mpr h

/-- The digits of a natural number are ASCII digits. -/
lemma isDigit_toDigits (n : Nat) : ∀ c ∈ Nat.toDigits 10 n, c.isDigit = true :=
  fun _ hc => Nat.isDigit_of_mem_toDigits (by decide) (by decide) hc

/-- The decimal digits of a natural number are read as the number. -/
lemma readDigits?_toDigits {n : Nat} (h : n < Nat.pow 10 maxDigits) :
    readDigits? (Nat.toDigits 10 n) = some n := by
  rw [readDigits?_of_isDigit Nat.toDigits_ne_nil (isDigit_toDigits n)
      (length_toDigits_le (by decide) h),
    Nat.ofDigitChars_toDigits (by decide) (by decide)]

/-- The numeral of an integer consists of its digits, after a sign if it is negative. -/
lemma toList_toString (n : Int) :
    (toString n).toList =
      if 0 ≤ n then Nat.toDigits 10 n.natAbs else '-' :: Nat.toDigits 10 n.natAbs := by
  rw [Int.toString_eq_repr, Int.repr_eq_if]
  by_cases hn : 0 ≤ n
  · have habs : n.toNat = n.natAbs := by omega
    rw [if_pos hn, if_pos hn, Nat.toList_repr, habs]
  · have habs : (-n).toNat = n.natAbs := by omega
    rw [if_neg hn, if_neg hn, String.toList_append, Nat.toList_repr, habs]
    rfl

/-- A numeral has nothing but digits and the sign. -/
lemma isDigit_of_mem_toString {n : Int} (h : c ∈ (toString n).toList) :
    c.isDigit = true ∨ c = '-' := by
  rw [toList_toString] at h
  split at h
  · exact Or.inl (isDigit_toDigits _ c h)
  · exact (List.mem_cons.mp h).symm.imp_left (isDigit_toDigits _ c)

/-- What is neither a digit nor the sign does not occur in a numeral. -/
theorem not_mem_toString (hdigit : c.isDigit = false) (hsign : c ≠ '-') (n : Int) :
    c ∉ (toString n).toList := by
  intro hc
  rcases isDigit_of_mem_toString hc with h | h
  · rw [hdigit] at h
    cases h
  · exact hsign h

/-- **Numerals are read back.** The numeral of an integer that is short enough to be written is
read as that integer. -/
theorem readInteger?_toString {n : Int} (h : n.natAbs < Nat.pow 10 maxDigits) :
    readInteger? (toString n) = some n := by
  have hblank : ∀ c ∈ (toString n).toList, isBlank c = false := by
    intro c hc
    apply isBlank_eq_false
    rcases isDigit_of_mem_toString hc with hdigit | rfl
    · rw [Char.isDigit, Bool.and_eq_true, decide_eq_true_iff, decide_eq_true_iff] at hdigit
      have hlow : 48 ≤ c.toNat := hdigit.1
      have hhigh : c.toNat ≤ 57 := hdigit.2
      omega
    · decide
  rw [readInteger?, trimBlanks_eq_self hblank, toList_toString]
  by_cases hn : 0 ≤ n
  · rw [if_pos hn, readSigned?_of_isDigit (isDigit_toDigits _), readDigits?_toDigits h]
    exact congrArg some (Int.natAbs_of_nonneg hn)
  · rw [if_neg hn, readSigned?, readDigits?_toDigits h]
    have hneg : -(n.natAbs : Int) = n := by omega
    exact congrArg some hneg

/-! ## What occurs in a numeral -/

/-- A character that has a place in numerals: a digit, a sign, an underscore or a blank. -/
def isOfNumeral (c : Char) : Bool :=
  (decimalValue? c).isSome || c = '+' || c = '-' || c = '_' || isBlank c

/-- A digit has a place in numerals. -/
lemma isOfNumeral_of_decimalValue? {d : Nat} (h : decimalValue? c = some d) :
    isOfNumeral c = true := by
  simp [isOfNumeral, h]

/-- Nothing else follows a first digit. -/
lemma isOfNumeral_of_digitsAfter {ds : List Nat} (h : digitsAfter cs = some ds) :
    ∀ c ∈ cs, isOfNumeral c = true := by
  induction cs using digitsAfter.induct generalizing ds with
  | case1 => exact nofun
  | case2 c rest ih =>
    rw [digitsAfter] at h
    obtain ⟨d, hd, h⟩ := Option.bind_eq_some_iff.mp h
    obtain ⟨ds', hds, -⟩ := Option.bind_eq_some_iff.mp h
    refine List.forall_mem_cons.mpr ⟨by decide, List.forall_mem_cons.mpr ⟨?_, ih hds⟩⟩
    exact isOfNumeral_of_decimalValue? hd
  | case3 c rest hne ih =>
    rw [digitsAfter.eq_3 c rest hne] at h
    obtain ⟨d, hd, h⟩ := Option.bind_eq_some_iff.mp h
    obtain ⟨ds', hds, -⟩ := Option.bind_eq_some_iff.mp h
    exact List.forall_mem_cons.mpr ⟨isOfNumeral_of_decimalValue? hd, ih hds⟩

/-- Nothing else occurs in a run of digits. -/
lemma isOfNumeral_of_readDigits? {n : Nat} (h : readDigits? cs = some n) :
    ∀ c ∈ cs, isOfNumeral c = true := by
  cases cs with
  | nil => exact nofun
  | cons c rest =>
    obtain ⟨d, hd, h⟩ := Option.bind_eq_some_iff.mp h
    obtain ⟨ds, hds, -⟩ := Option.bind_eq_some_iff.mp h
    exact List.forall_mem_cons.mpr
      ⟨isOfNumeral_of_decimalValue? hd, isOfNumeral_of_digitsAfter hds⟩

/-- Nothing else occurs in a run of digits with or without a sign. -/
lemma isOfNumeral_of_readSigned? {n : Int} (h : readSigned? cs = some n) :
    ∀ c ∈ cs, isOfNumeral c = true := by
  unfold readSigned? at h
  split at h <;> obtain ⟨m, hm, -⟩ := Option.map_eq_some_iff.mp h
  · exact List.forall_mem_cons.mpr ⟨by decide, isOfNumeral_of_readDigits? hm⟩
  · exact List.forall_mem_cons.mpr ⟨by decide, isOfNumeral_of_readDigits? hm⟩
  · exact isOfNumeral_of_readDigits? hm

/-- Only blanks are cut off a text. -/
lemma isBlank_or_mem_trimBlanks (hc : c ∈ cs) : isBlank c = true ∨ c ∈ trimBlanks cs := by
  have hdrop : ∀ {ds : List Char}, c ∈ ds → isBlank c = true ∨ c ∈ ds.dropWhile isBlank := by
    intro ds hds
    rw [← List.takeWhile_append_dropWhile (p := isBlank) (l := ds), List.mem_append] at hds
    exact hds.imp_left (List.all_eq_true.mp List.all_takeWhile c)
  rcases hdrop hc with hblank | hfront
  · exact Or.inl hblank
  · exact (hdrop (List.mem_reverse.mpr hfront)).imp_right List.mem_reverse.mpr

/-- **What occurs in a numeral.** A text with any other character in it is none. -/
theorem isOfNumeral_of_readInteger? {s : String} {n : Int} (h : readInteger? s = some n) :
    ∀ c ∈ s.toList, isOfNumeral c = true := by
  intro c hc
  rcases isBlank_or_mem_trimBlanks hc with hblank | hmem
  · simp [isOfNumeral, hblank]
  · exact isOfNumeral_of_readSigned? h c hmem

end ReadRouting.Text
