import ReadRouting.Fault.Message
import ReadRouting.Proofs.Brackets
import ReadRouting.Proofs.Checks

set_option autoImplicit false
set_option relaxedAutoImplicit false

/-!
# What the checks of options raise

A check should refuse a value as a matter of configuration or of its kind, so that a caller who
catches these two misses nothing. Each check keeps to that but for values that pass for what they
are not, and which these are is told exactly: texts that are all digits but no numerals, texts that
have something else than a numeral for a port, and values that a refusal would show but cannot.

## Main definitions

* `ReadRouting.Fault.raised` — the kind of what is raised for a fault.
* `ReadRouting.Checked.Conforms` — a check succeeds, or raises one of the two kinds.
* `ReadRouting.Value.IsFalseNumeral`, `IsFalseAddress`, `IsFalseTagSet`, `IsFalseTagSets` — values
  that pass for what they are not.
* `ReadRouting.OptionCheck` — the checks of options.
* `ReadRouting.OptionCheck.Overlooks` — the values for which a check raises something else.

## Main results

* `ReadRouting.Checked.conforms_bind_iff`, `ReadRouting.Checked.conforms_mapM_iff` — sequences of
  checks.
* `ReadRouting.OptionCheck.conforms_iff` — each check conforms but for what it overlooks.
* `ReadRouting.OptionCheck.raised_by_checks` — the same, with what is raised for a text.
-/

namespace ReadRouting

/-- The kind of what is raised for a fault. A refusal is worded first; if that fails, the failure is
what is raised. -/
def Fault.raised (f : Fault) : FaultKind := (f.report.run []).1.kind

/-- A refusal is raised as what it is, if it can be worded. -/
lemma Fault.raised_refused (r : Refusal) :
    (Fault.refused r).raised =
      match r.message.result with
      | .ok _ => r.kind
      | .error g => g.kind := by
  have hresult : r.message.result = (r.message []).1 := rfl
  rw [hresult]
  unfold Fault.raised Fault.report
  simp only [bind, StateT.bind, StateT.run, ExceptT.run]
  rcases r.message [] with ⟨_ | _, es⟩ <;> rfl

/-- A complaint about an option with a text for a name is worded, unless it shows a value that
cannot be shown. -/
lemma Fault.raised_badOption (name : String) {c : Complaint} (hc : ∀ v, c ≠ .notTagSet v) :
    (Fault.refused (.badOption (.text name) c)).raised = c.kind := by
  cases c with
  | notTagSet v => exact absurd rfl (hc v)
  | _ => rfl

/-- What is raised for something that is no tag set. -/
lemma Fault.raised_notTagSet (name : String) (v : Value) :
    (Fault.refused (.badOption (.text name) (.notTagSet v))).raised =
      match v.shown.result with
      | .ok _ => .kind
      | .error g => g.kind := by
  rw [raised_refused]
  have hresult : (Refusal.badOption (.text name) (.notTagSet v)).message.result =
      (v.shown >>= fun text => Recorded.ofChecked
        (.ok (name ++ " must be a LabelSet or a mapping, not " ++ text))).result := rfl
  rw [hresult, Recorded.result_bind_ofChecked]
  cases v.shown.result <;> rfl

namespace Checked

variable {α β : Type} {c : Checked α} {f : α → Checked β}

/-! ## Checks that conform -/

/-- The check succeeds, or what it raises is a matter of configuration or of the kind of a value. -/
def Conforms (c : Checked α) : Prop :=
  ∀ f, c = .error f → f.raised = .configuration ∨ f.raised = .kind

/-- A check that succeeds conforms. -/
lemma conforms_ok (a : α) : Conforms (.ok a : Checked α) := nofun

/-- A check that fails conforms if what it raises does. -/
lemma conforms_error_iff {e : Fault} :
    Conforms (.error e : Checked α) ↔ e.raised = .configuration ∨ e.raised = .kind :=
  ⟨fun h => h e rfl, fun h _ he => Except.error.inj he ▸ h⟩

/-- A complaint conforms, unless it shows a value that cannot be shown. -/
lemma conforms_complain (name : String) {complaint : Complaint}
    (h : ∀ v, complaint ≠ .notTagSet v) :
    Conforms (complain (.text name) complaint : Checked α) := by
  refine conforms_error_iff.mpr ?_
  rw [Fault.raised_badOption name h]
  cases complaint <;> first | exact Or.inl rfl | exact Or.inr rfl

/-- A sequence conforms if its first half does, and the second one after it. -/
theorem conforms_bind_iff :
    (c >>= f).Conforms ↔ c.Conforms ∧ ∀ a, c = .ok a → (f a).Conforms := by
  cases c with
  | error e =>
    exact ⟨fun h => ⟨conforms_error_iff.mpr (h e rfl), nofun⟩,
      fun h => conforms_error_iff.mpr (conforms_error_iff.mp h.1)⟩
  | ok a => exact ⟨fun h => ⟨conforms_ok a, fun _ hb => Except.ok.inj hb ▸ h⟩, fun h => h.2 a rfl⟩

/-- What conforms anyway can follow any check. -/
lemma conforms_bind_iff_left (h : ∀ a, (f a).Conforms) : (c >>= f).Conforms ↔ c.Conforms :=
  conforms_bind_iff.trans (and_iff_left fun a _ => h a)

/-- It does not matter what is made of what a check yields. -/
lemma conforms_map_iff {g : α → β} : Conforms (c.map g) ↔ c.Conforms := by
  cases c with
  | error e => exact conforms_error_iff.trans conforms_error_iff.symm
  | ok a => exact iff_of_true (conforms_ok (g a)) (conforms_ok a)

/-- Checks of several items conform if the first one that fails does. -/
theorem conforms_mapM_iff {f : α → Checked β} {as : List α} :
    (as.mapM f).Conforms ↔ ∀ before a after, as = before ++ a :: after →
      (∀ b ∈ before, ∃ r, f b = .ok r) → (f a).Conforms := by
  induction as with
  | nil =>
    rw [List.mapM_nil]
    refine ⟨fun _ before a after h => ?_, fun _ => conforms_ok []⟩
    simp at h
  | cons x xs ih =>
    have hrest : ∀ b, (xs.mapM f >>= fun bs => pure (b :: bs)).Conforms ↔ (xs.mapM f).Conforms :=
      fun b => conforms_bind_iff_left fun bs => conforms_ok (b :: bs)
    rw [List.mapM_cons, conforms_bind_iff]
    simp only [hrest, ih]
    constructor
    · rintro ⟨hx, hxs⟩ before a after heq hbefore
      cases before with
      | nil =>
        cases heq
        exact hx
      | cons b before =>
        cases heq
        obtain ⟨⟨r, hr⟩, hbefore⟩ := List.forall_mem_cons.mp hbefore
        exact hxs r hr before a after rfl hbefore
    · intro h
      refine ⟨h [] x xs rfl nofun, fun r hr before a after heq hbefore => ?_⟩
      exact h (x :: before) a after (by rw [heq]; rfl)
        (List.forall_mem_cons.mpr ⟨⟨r, hr⟩, hbefore⟩)

end Checked

namespace Value

/-! ## Values that pass for something else -/

/-- A text that is all digits, but no numeral. -/
def IsFalseNumeral (v : Value) : Prop :=
  ∃ s, v = .text s ∧ Text.isDigits s = true ∧ Text.readInteger? s = none

/-- A text with something else than a numeral for a port, or a pair with a false numeral for one. -/
def IsFalseAddress (v : Value) : Prop :=
  (∃ s host port, v = .text s ∧ ':' ∉ port ∧ s.toList = host ++ ':' :: port ∧
    Text.readInteger? (String.ofList port) = none) ∨
  ∃ host port, (v = .tuple [.text host, port] ∨ v = .label ⟨.text host, port⟩) ∧
    port.IsFalseNumeral

/-- The value is accepted as a tag set. -/
def IsTagSet (v : Value) : Prop := ∃ s, ∀ option, Checked.tagSet option v = .ok s

/-- Neither a label set nor a mapping, but a refusal cannot show it: showing it fails, and by no
matter of configuration or of kind. -/
def IsFalseTagSet (v : Value) : Prop :=
  (∀ s, v ≠ .labels s) ∧ (∀ m, v ≠ .mapping m) ∧
    ∃ g, v.shown.result = .error g ∧ g.kind ≠ .configuration ∧ g.kind ≠ .kind

/-- Neither a mapping nor a text, and the first item that is no tag set cannot be shown. -/
def IsFalseTagSets (v : Value) : Prop :=
  (∀ m, v ≠ .mapping m) ∧ (∀ s, v ≠ .text s) ∧ ∃ before item after,
    v.items? = some (before ++ item :: after) ∧ (∀ b ∈ before, b.IsTagSet) ∧ item.IsFalseTagSet

end Value

/-- A text is no address exactly if something else than a numeral follows its last colon, and it is
ill-formed then. -/
lemma Address.parse_eq_error_iff {s : String} {f : Fault} :
    parse s = .error f ↔ f = .illFormed ∧ (Value.text s).IsFalseAddress := by
  have hfalse : (Value.text s).IsFalseAddress ↔ ∃ host port, ':' ∉ port ∧
      s.toList = host ++ ':' :: port ∧ Text.readInteger? (String.ofList port) = none := by
    constructor
    · rintro (⟨_, host, port, ⟨⟩, h⟩ | ⟨_, _, ⟨⟨⟩⟩ | ⟨⟨⟩⟩, -⟩)
      exact ⟨host, port, h⟩
    · rintro ⟨host, port, h⟩
      exact Or.inl ⟨s, host, port, rfl, h⟩
  rw [hfalse]
  constructor
  · intro h
    by_cases hcolon : ':' ∈ s.toList
    · obtain ⟨host, port, hport, hs⟩ := exists_last_colon hcolon
      rw [parse_of_append hport hs] at h
      split at h
      · cases h
      · next hnone =>
        cases h
        exact ⟨rfl, host, port, hport, hs, hnone⟩
    · rw [parse_of_not_mem hcolon] at h
      cases h
  · rintro ⟨rfl, host, port, hport, hs, hnone⟩
    rw [parse_of_append hport hs, hnone]

namespace Checked

variable {name : String} {v host port : Value}

/-! ## The single checks -/

/-- What the check of an integer raises for a text. -/
lemma integer_text (option : Value) (s : String) :
    integer option (.text s) =
      if Text.isDigits s then
        match Text.readInteger? s with
        | some n => .ok ⟨n, false⟩
        | none => .error .illFormed
      else complain option .notDigits := rfl

/-- The check of an integer overlooks false numerals only. -/
lemma conforms_integer_iff :
    (integer (.text name) v).Conforms ↔ ¬ v.IsFalseNumeral := by
  cases v with
  | text s =>
    rw [integer_text]
    by_cases hdigits : Text.isDigits s = true
    · rw [if_pos hdigits]
      cases hnumeral : Text.readInteger? s with
      | some n =>
        refine ⟨fun _ => ?_, fun _ => conforms_ok _⟩
        rintro ⟨_, ⟨⟩, -, hnone⟩
        rw [hnumeral] at hnone
        cases hnone
      | none =>
        refine iff_of_false (fun h => ?_) (not_not.mpr ⟨s, rfl, hdigits, hnumeral⟩)
        rcases conforms_error_iff.mp h with h | h <;> cases h
    · rw [if_neg hdigits]
      refine iff_of_true (conforms_complain name nofun) ?_
      rintro ⟨_, ⟨⟩, h, -⟩
      exact hdigits h
  | int n => exact iff_of_true (conforms_ok n) (by rintro ⟨_, ⟨⟩, -⟩)
  | _ => exact iff_of_true (conforms_complain name nofun) (by rintro ⟨_, ⟨⟩, -⟩)

/-- A check of an integer within a bound overlooks what the check of an integer does. -/
lemma conforms_bounded_iff {p : Integer → Prop} [DecidablePred p] {complaint : Complaint}
    (h : ∀ v, complaint ≠ .notTagSet v) :
    (integer (.text name) v >>= fun n =>
      if p n then complain (.text name) complaint else .ok n).Conforms ↔ ¬ v.IsFalseNumeral := by
  rw [conforms_bind_iff_left, conforms_integer_iff]
  intro n
  split
  · exact conforms_complain name h
  · exact conforms_ok n

/-- So does the one above zero. -/
lemma conforms_positive_iff : (positive (.text name) v).Conforms ↔ ¬ v.IsFalseNumeral :=
  conforms_bounded_iff nofun

/-- So does the one from zero on. -/
lemma conforms_nonNegative_iff : (nonNegative (.text name) v).Conforms ↔ ¬ v.IsFalseNumeral :=
  conforms_bounded_iff nofun

/-- The check of an integer or null overlooks what the check of an integer does. -/
lemma conforms_nonNegativeOrNull_iff :
    (nonNegativeOrNull (.text name) v).Conforms ↔ ¬ v.IsFalseNumeral := by
  unfold nonNegativeOrNull
  split
  · exact iff_of_true (conforms_ok none) (by rintro ⟨_, ⟨⟩, -⟩)
  · exact (conforms_bind_iff_left fun n => conforms_ok (some n)).trans conforms_nonNegative_iff

/-- The check of a text overlooks nothing. -/
lemma conforms_text (name : String) (v : Value) : (text (.text name) v).Conforms := by
  unfold text
  split
  · exact conforms_ok _
  · exact conforms_complain name nofun

/-- The check of a truth value overlooks nothing. -/
lemma conforms_boolean (name : String) (v : Value) : (boolean (.text name) v).Conforms := by
  unfold boolean
  split
  · exact conforms_ok _
  · exact conforms_complain name nofun

/-- The check of a random source overlooks nothing. -/
lemma conforms_randomSource (name : String) (v : Value) :
    (randomSource (.text name) v).Conforms := by
  unfold randomSource
  split
  · exact conforms_ok none
  · exact conforms_ok (some _)
  · exact conforms_complain name nofun

/-- The check of a host and a port overlooks false numerals after a text. -/
lemma conforms_hostAndPort_iff : (hostAndPort (.text name) host port).Conforms ↔
    ((∃ s, host = .text s) → ¬ port.IsFalseNumeral) := by
  have hport : ∀ h, (positive (.text name) port >>= fun p => .ok (⟨h, p⟩ : Address)).Conforms ↔
      ¬ port.IsFalseNumeral :=
    fun h => (conforms_bind_iff_left fun p => conforms_ok _).trans conforms_positive_iff
  refine conforms_bind_iff.trans ?_
  rw [and_iff_right (conforms_text name host)]
  constructor
  · rintro h ⟨s, rfl⟩
    exact (hport s).mp (h s rfl)
  · intro h s hs
    refine (hport s).mpr (h ?_)
    unfold text at hs
    split at hs
    · exact ⟨_, rfl⟩
    · cases hs

/-- The check of an address overlooks false addresses only. -/
lemma conforms_address_iff : (address (.text name) v).Conforms ↔ ¬ v.IsFalseAddress := by
  unfold address
  split
  · next s =>
    constructor
    · intro h hfalse
      rcases h .illFormed (Address.parse_eq_error_iff.mpr ⟨rfl, hfalse⟩) with h | h <;> cases h
    · intro h f hf
      exact absurd (Address.parse_eq_error_iff.mp hf).2 h
  · next host port =>
    rw [conforms_hostAndPort_iff]
    constructor
    · rintro h (⟨_, _, _, ⟨⟩, -⟩ | ⟨_, _, ⟨⟨⟩⟩ | ⟨⟨⟩⟩, hfalse⟩)
      exact h ⟨_, rfl⟩ hfalse
    · rintro h ⟨s, rfl⟩ hfalse
      exact h (Or.inr ⟨s, port, Or.inl rfl, hfalse⟩)
  · next l =>
    obtain ⟨host, port⟩ := l
    rw [conforms_hostAndPort_iff]
    constructor
    · rintro h (⟨_, _, _, ⟨⟩, -⟩ | ⟨_, _, ⟨⟨⟩⟩ | ⟨⟨⟩⟩, hfalse⟩)
      exact h ⟨_, rfl⟩ hfalse
    · rintro h ⟨s, rfl⟩ hfalse
      exact h (Or.inr ⟨s, port, Or.inr rfl, hfalse⟩)
  · next htext htuple hlabel =>
    refine iff_of_true (conforms_complain name nofun) ?_
    rintro (⟨s, _, _, rfl, -⟩ | ⟨_, _, rfl | rfl, -⟩)
    · exact htext s rfl
    · exact htuple _ _ rfl
    · exact hlabel _ rfl

/-- The check of a tag set overlooks false ones only. -/
lemma conforms_tagSet_iff : (tagSet (.text name) v).Conforms ↔ ¬ v.IsFalseTagSet := by
  unfold tagSet
  split
  · next s => exact iff_of_true (conforms_ok s) fun h => h.1 s rfl
  · next m =>
    refine iff_of_true ?_ fun h => h.2.1 m rfl
    unfold LabelSet.ofMapping LabelSet.ofLabels
    split
    · exact conforms_ok _
    · exact conforms_error_iff.mpr (Or.inr rfl)
  · next hlabels hmapping =>
    have hfalse : v.IsFalseTagSet ↔
        ∃ g, v.shown.result = .error g ∧ g.kind ≠ .configuration ∧ g.kind ≠ .kind :=
      ⟨fun h => h.2.2, fun h => ⟨hlabels, hmapping, h⟩⟩
    rw [hfalse]
    refine conforms_error_iff.trans ?_
    rw [Fault.raised_notTagSet]
    cases hshown : v.shown.result with
    | ok text => simp
    | error g => simp [← not_or]

/-- Whether a value is accepted as a tag set does not depend on the option. -/
lemma isTagSet_of_tagSet {option : Value} {t : LabelSet} (h : tagSet option v = .ok t) :
    v.IsTagSet := by
  unfold tagSet at h
  split at h
  · exact ⟨t, fun _ => h⟩
  · exact ⟨t, fun _ => h⟩
  · cases h

/-- The check of tag sets overlooks false ones only. -/
lemma conforms_tagSets_iff : (tagSets (.text name) v).Conforms ↔ ¬ v.IsFalseTagSets := by
  unfold tagSets
  split
  · next m => exact iff_of_true (conforms_complain name nofun) fun h => h.1 m rfl
  · next s => exact iff_of_true (conforms_complain name nofun) fun h => h.2.1 s rfl
  · next hmapping htext =>
    cases hitems : v.items? with
    | none =>
      have hnone : v.items = .error .unsupported := by rw [Value.items, hitems]
      rw [hnone]
      refine iff_of_true (conforms_error_iff.mpr (Or.inr rfl)) ?_
      rintro ⟨-, -, before, item, after, h, -⟩
      rw [hitems] at h
      cases h
    | some items =>
      have hsome : v.items = .ok items := by rw [Value.items, hitems]
      rw [hsome]
      refine conforms_mapM_iff.trans ?_
      constructor
      · rintro h ⟨-, -, before, item, after, heq, hbefore, hfalse⟩
        rw [hitems] at heq
        refine conforms_tagSet_iff.mp (h before item after (Option.some.inj heq) ?_) hfalse
        intro b hb
        obtain ⟨t, ht⟩ := hbefore b hb
        exact ⟨t, ht _⟩
      · intro h before item after heq hbefore
        refine conforms_tagSet_iff.mpr fun hfalse =>
          h ⟨hmapping, htext, before, item, after, ?_, ?_, hfalse⟩
        · rw [hitems, heq]
        · intro b hb
          obtain ⟨t, ht⟩ := hbefore b hb
          exact isTagSet_of_tagSet ht

end Checked

/-! ## All checks -/

/-- The checks of options. -/
inductive OptionCheck
  | boolean
  | integer
  | positive
  | nonNegative
  | nonNegativeOrNull
  | text
  | address
  | tagSet
  | tagSets
  | randomSource
  /-- The one that goes with the name of the option. -/
  | named
  deriving DecidableEq

namespace OptionCheck

variable {name : String} {v : Value}

/-- Whether a check of a value succeeds, and what it fails with otherwise. -/
def run (check : OptionCheck) (option v : Value) : Checked Unit :=
  match check with
  | boolean => (Checked.boolean option v).map fun _ => ()
  | integer => (Checked.integer option v).map fun _ => ()
  | positive => (Checked.positive option v).map fun _ => ()
  | nonNegative => (Checked.nonNegative option v).map fun _ => ()
  | nonNegativeOrNull => (Checked.nonNegativeOrNull option v).map fun _ => ()
  | text => (Checked.text option v).map fun _ => ()
  | address => (Checked.address option v).map fun _ => ()
  | tagSet => (Checked.tagSet option v).map fun _ => ()
  | tagSets => (Checked.tagSets option v).map fun _ => ()
  | randomSource => (Checked.randomSource option v).map fun _ => ()
  | named => (KnownOption.check option v).map fun _ => ()

/-- The values for which a check raises neither of the two kinds. -/
def Overlooks (check : OptionCheck) (name : String) (v : Value) : Prop :=
  match check with
  | boolean | text | randomSource => False
  | integer | positive | nonNegative | nonNegativeOrNull => v.IsFalseNumeral
  | address => v.IsFalseAddress
  | tagSet => v.IsFalseTagSet
  | tagSets => v.IsFalseTagSets
  | named =>
    match KnownOption.ofName? name with
    | some .acceptableLatency | some .localThreshold => v.IsFalseNumeral
    | some .tagSets => v.IsFalseTagSets
    | some .randomSource | none => False

/-- The check of an option that is known overlooks what the check of such a value does. -/
lemma conforms_checkValue_iff (o : KnownOption) (hname : KnownOption.ofName? name = some o) :
    (o.checkValue (.text name) v).Conforms ↔ ¬ Overlooks named name v := by
  unfold Overlooks
  simp only [hname]
  cases o with
  | acceptableLatency | localThreshold =>
    refine (Checked.conforms_bind_iff_left fun n => ?_).trans Checked.conforms_nonNegativeOrNull_iff
    cases n <;> exact Checked.conforms_ok _
  | randomSource =>
    refine (Checked.conforms_bind_iff_left fun r => ?_).trans
      (iff_of_true (Checked.conforms_randomSource name v) not_false)
    cases r <;> exact Checked.conforms_ok _
  | tagSets =>
    exact (Checked.conforms_bind_iff_left fun ts => Checked.conforms_ok _).trans
      Checked.conforms_tagSets_iff

/-- The check that goes with the name of an option overlooks what the check of its value does, and
nothing if no option has the name. -/
lemma conforms_check_iff :
    (KnownOption.check (.text name) v).Conforms ↔ ¬ Overlooks named name v := by
  cases hname : KnownOption.ofName? name with
  | none =>
    have hvalue : KnownOption.ofValue (.text name) =
        .error (.refused (.unknownOption (.text name))) := by
      rw [KnownOption.ofValue, hname]
    rw [KnownOption.check, hvalue, Overlooks, hname]
    exact iff_of_true (Checked.conforms_error_iff.mpr (Or.inl rfl)) not_false
  | some o =>
    have hvalue : KnownOption.ofValue (.text name) = .ok o := by
      rw [KnownOption.ofValue, hname]
    rw [KnownOption.check, hvalue]
    exact (Checked.conforms_bind_iff_left fun w => Checked.conforms_ok (o, w)).trans
      (conforms_checkValue_iff o hname)

/-- **What each check raises.** A check of an option with a text for a name succeeds, or raises a
matter of configuration or of kind, but for the values that it overlooks. -/
theorem conforms_iff (check : OptionCheck) (name : String) (v : Value) :
    (check.run (.text name) v).Conforms ↔ ¬ check.Overlooks name v := by
  cases check with
  | boolean =>
    exact Checked.conforms_map_iff.trans
      (iff_of_true (Checked.conforms_boolean name v) not_false)
  | integer => exact Checked.conforms_map_iff.trans Checked.conforms_integer_iff
  | positive => exact Checked.conforms_map_iff.trans Checked.conforms_positive_iff
  | nonNegative => exact Checked.conforms_map_iff.trans Checked.conforms_nonNegative_iff
  | nonNegativeOrNull => exact Checked.conforms_map_iff.trans Checked.conforms_nonNegativeOrNull_iff
  | text =>
    exact Checked.conforms_map_iff.trans (iff_of_true (Checked.conforms_text name v) not_false)
  | address => exact Checked.conforms_map_iff.trans Checked.conforms_address_iff
  | tagSet => exact Checked.conforms_map_iff.trans Checked.conforms_tagSet_iff
  | tagSets => exact Checked.conforms_map_iff.trans Checked.conforms_tagSets_iff
  | randomSource =>
    exact Checked.conforms_map_iff.trans
      (iff_of_true (Checked.conforms_randomSource name v) not_false)
  | named => exact Checked.conforms_map_iff.trans conforms_check_iff

/-- **What the checks raise.** Each check of an option with a text for a name succeeds, or raises a
matter of configuration or of kind, but for the values that it overlooks. For a text that is no
integer that is a matter of configuration, unless it is all digits: then it is raised as
ill-formed. So it always is for a text that is no address. -/
theorem raised_by_checks (name : String) :
    (∀ (check : OptionCheck) (v : Value),
      (check.run (.text name) v).Conforms ↔ ¬ check.Overlooks name v) ∧
    (∀ s f, Checked.integer (.text name) (.text s) = .error f →
      f.raised = if Text.isDigits s then .content else .configuration) ∧
    ∀ s f, Checked.address (.text name) (.text s) = .error f → f.raised = .content := by
  refine ⟨fun check v => conforms_iff check name v, fun s f hf => ?_, fun s f hf => ?_⟩
  · rw [Checked.integer_text] at hf
    by_cases hdigits : Text.isDigits s = true
    · rw [if_pos hdigits] at hf ⊢
      split at hf
      · cases hf
      · cases hf
        rfl
    · rw [if_neg hdigits] at hf ⊢
      cases hf
      rfl
  · rw [(Address.parse_eq_error_iff.mp hf).1]
    rfl

/-- A superscript is a digit but no numeral; a letter is no digit, and no port either. -/
theorem raised_by_checks_superscript :
    let name := "n"
    let option : Value := .text name
    Checked.integer option (.text "²") = .error .illFormed ∧ Fault.illFormed.raised = .content ∧
      ¬ (integer.run option (.text "²")).Conforms ∧ (integer.run option (.text "a")).Conforms ∧
      Checked.integer option (.text "a") = .error (.refused (.badOption option .notDigits)) ∧
      (Fault.refused (.badOption option .notDigits)).raised = .configuration ∧
      Checked.address option (.text "a:b") = .error .illFormed ∧
      ¬ (address.run option (.text "a:b")).Conforms := by
  intro name option
  obtain ⟨hconforms, hinteger, -⟩ := raised_by_checks name
  have hsuperscript : Text.isDigits "²" = true ∧ Text.readInteger? "²" = none := by decide +kernel
  have hletter : Text.isDigits "a" = false := by decide +kernel
  have hfails : Checked.integer option (.text "²") = .error .illFormed := by
    rw [Checked.integer_text, if_pos hsuperscript.1, hsuperscript.2]
  have hrefuses : Checked.integer option (.text "a") =
      .error (.refused (.badOption option .notDigits)) := by
    rw [Checked.integer_text, if_neg (by rw [hletter]; exact Bool.false_ne_true)]
    rfl
  have hport : (Value.text "a:b").IsFalseAddress :=
    Or.inl ⟨"a:b", ['a'], ['b'], rfl, by decide, rfl, by decide +kernel⟩
  have hraised := hinteger "²" _ hfails
  have hraised' := hinteger "a" _ hrefuses
  rw [if_pos hsuperscript.1] at hraised
  rw [if_neg (by rw [hletter]; exact Bool.false_ne_true)] at hraised'
  refine ⟨hfails, hraised, ?_, ?_, hrefuses, hraised', ?_, ?_⟩
  · rw [hconforms, Classical.not_not]
    exact ⟨"²", rfl, hsuperscript⟩
  · rw [hconforms]
    rintro ⟨_, ⟨⟩, h, -⟩
    rw [hletter] at h
    cases h
  · exact Address.parse_eq_error_iff.mpr ⟨rfl, hport⟩
  · rw [hconforms, Classical.not_not]
    exact hport

end OptionCheck

end ReadRouting
