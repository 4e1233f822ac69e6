import Mathlib.Data.List.Forall2
import ReadRouting.Cluster.Selection
import ReadRouting.Event

set_option autoImplicit false
set_option relaxedAutoImplicit false

/-!
# Results of checks

Taking checks and recorded computations apart: what the parts of a sequence come to if the whole
succeeds, and what the result of a recorded computation is.

## Main definitions

* `ReadRouting.Checked.Decides` — a check succeeds, and answers a question.
* `ReadRouting.Recorded.result` — the result of a computation, without what it recorded.

## Main results

* `ReadRouting.Checked.bind_eq_ok` — both halves of a sequence that succeeds do.
* `ReadRouting.Checked.mapM_eq_ok_iff` — checks of several items succeed if each does.
* `ReadRouting.run_bind_ok`, `ReadRouting.run_bind_error` — a sequence of computations with a state.
* `ReadRouting.Recorded.result_ofChecked_bind`, `ReadRouting.Recorded.result_bind_ofChecked` — the
  result of a sequence that starts, or ends, with a check.
-/

namespace ReadRouting

namespace Checked

variable {α β : Type}

/-- A sequence that succeeds has a first half that does, and a second one that does from there. -/
theorem bind_eq_ok {x : Checked α} {f : α → Checked β} {b : β} (h : x >>= f = .ok b) :
    ∃ a, x = .ok a ∧ f a = .ok b := by
  cases x with
  | error e => cases h
  | ok a => exact ⟨a, rfl, h⟩

/-- Checks of several items succeed together exactly if each does, and yield what each yields. -/
theorem mapM_eq_ok_iff {f : α → Checked β} {as : List α} {bs : List β} :
    as.mapM f = .ok bs ↔ List.Forall₂ (fun a b => f a = .ok b) as bs := by
  induction as generalizing bs with
  | nil =>
    rw [List.mapM_nil, List.forall₂_nil_left_iff]
    exact ⟨fun h => (Except.ok.inj h).symm, fun h => congrArg Except.ok h.symm⟩
  | cons a as ih =>
    rw [List.mapM_cons, List.forall₂_cons_left_iff]
    constructor
    · intro h
      obtain ⟨b, hb, h⟩ := bind_eq_ok h
      obtain ⟨rest, hrest, h⟩ := bind_eq_ok h
      exact ⟨b, rest, hb, ih.mp hrest, (Except.ok.inj h).symm⟩
    · rintro ⟨b, rest, hb, hrest, rfl⟩
      rw [hb, ih.mpr hrest]
      rfl

/-- What a check of each item yields, it yields for one of them. -/
lemma exists_of_mem_mapM {f : α → Checked β} {as : List α} {bs : List β}
    (h : as.mapM f = .ok bs) {b : β} (hb : b ∈ bs) : ∃ a ∈ as, f a = .ok b := by
  obtain ⟨i, hi, rfl⟩ := List.getElem_of_mem hb
  obtain ⟨hlength, hget⟩ := List.forall₂_iff_get.mp (mapM_eq_ok_iff.mp h)
  exact ⟨as[i], List.getElem_mem (hlength ▸ hi), hget i (hlength ▸ hi) hi⟩

/-- A check of each item that never fails keeps the items that pass. -/
lemma filter_eq_ok {p : α → Checked Bool} {q : α → Bool} {as : List α}
    (h : ∀ a ∈ as, p a = .ok (q a)) : Checked.filter p as = .ok (as.filter q) := by
  induction as with
  | nil => rfl
  | cons a as ih =>
    unfold Checked.filter
    rw [h a List.mem_cons_self, ih fun b hb => h b (List.mem_cons_of_mem a hb), List.filter_cons]
    cases q a <;> rfl

/-- What a check keeps of several items is some of them. -/
lemma mem_of_mem_filter {p : α → Checked Bool} {as bs : List α} {a : α}
    (h : Checked.filter p as = .ok bs) (ha : a ∈ bs) : a ∈ as := by
  induction as generalizing bs with
  | nil =>
    cases h
    cases ha
  | cons x xs ih =>
    obtain ⟨keep, -, h⟩ := bind_eq_ok h
    obtain ⟨rest, hrest, h⟩ := bind_eq_ok h
    cases h
    cases keep with
    | false => exact List.mem_cons_of_mem x (ih hrest ha)
    | true =>
      rcases List.mem_cons.mp ha with rfl | ha
      · exact List.mem_cons_self
      · exact List.mem_cons_of_mem x (ih hrest ha)

/-! ## Checks that answer a question -/

/-- The check succeeds, and its answer is whether `P` holds. -/
def Decides (c : Checked Bool) (P : Prop) : Prop := ∃ r, c = .ok r ∧ (r = true ↔ P)

variable {c d : Checked Bool} {P Q : Prop}

/-- An answer that is given decides what it stands for. -/
lemma decides_ok {b : Bool} (h : b = true ↔ P) : Decides (.ok b) P := ⟨b, rfl, h⟩

/-- A check decides every way of putting its question. -/
lemma Decides.congr (h : Decides c P) (hpq : P ↔ Q) : Decides c Q := by
  obtain ⟨r, hr, hp⟩ := h
  exact ⟨r, hr, hp.trans hpq⟩

/-- The answer is yes exactly if the question is to be answered so. -/
lemma Decides.eq_ok_true_iff (h : Decides c P) : c = .ok true ↔ P := by
  obtain ⟨r, rfl, hr⟩ := h
  rw [Except.ok.injEq, hr]

/-- Checks that decide the same question have the same result. -/
lemma Decides.eq (hc : Decides c P) (hd : Decides d Q) (h : P ↔ Q) : c = d := by
  obtain ⟨r, rfl, hr⟩ := hc
  obtain ⟨s, rfl, hs⟩ := hd
  rw [Except.ok.injEq, Bool.eq_iff_iff, hr, hs, h]

/-- A check that is followed by another only if its answer is yes. -/
lemma Decides.and (hc : Decides c P) (hd : Decides d Q) :
    Decides (c >>= fun r => if r then d else .ok false) (P ∧ Q) := by
  obtain ⟨r, rfl, hr⟩ := hc
  cases r with
  | true => exact hd.congr (by simp [← hr])
  | false => exact ⟨false, rfl, by simp [← hr]⟩

/-- Checks of several items decide together whether all of them pass. -/
lemma decides_all {f : α → Checked Bool} {P : α → Prop} {as : List α}
    (h : ∀ a ∈ as, Decides (f a) (P a)) : Decides (all (as.map f)) (∀ a ∈ as, P a) := by
  induction as with
  | nil => exact decides_ok (by simp)
  | cons a as ih =>
    have hrest := ih fun b hb => h b (List.mem_cons_of_mem a hb)
    exact ((h a List.mem_cons_self).and hrest).congr (by simp)

/-- Several checks pass together if each does. -/
lemma all_eq_ok_true {cs : List (Checked Bool)} :
    all cs = .ok true ↔ ∀ c ∈ cs, c = .ok true := by
  induction cs with
  | nil => exact ⟨nofun, fun _ => rfl⟩
  | cons c cs ih =>
    rw [List.forall_mem_cons, ← ih]
    constructor
    · intro h
      obtain ⟨r, rfl, h⟩ := bind_eq_ok h
      cases r with
      | true => exact ⟨rfl, h⟩
      | false => cases h
    · rintro ⟨rfl, h⟩
      exact h

end Checked

/-! ## Computations that keep a state when they fail -/

section State

variable {σ α β : Type} {x : ExceptT Fault (StateM σ) α} {f : α → ExceptT Fault (StateM σ) β}
  {st st' : σ}

/-- What follows a computation that succeeds goes on with the state as it is then. -/
theorem run_bind_ok {a : α} (h : x.run.run st = (.ok a, st')) :
    (x >>= f).run.run st = (f a).run.run st' := by
  simp only [bind, ExceptT.bind, ExceptT.mk, ExceptT.run, ExceptT.bindCont, StateT.bind,
    StateT.run] at h ⊢
  rw [h]

/-- Nothing follows a computation that fails. -/
theorem run_bind_error {e : Fault} (h : x.run.run st = (.error e, st')) :
    (x >>= f).run.run st = (.error e, st') := by
  simp only [bind, ExceptT.bind, ExceptT.mk, ExceptT.run, ExceptT.bindCont, StateT.bind,
    StateT.run] at h ⊢
  rw [h]
  rfl

end State

namespace Recorded

variable {α β : Type}

/-- The result of a computation, without what it recorded. -/
def result (r : Recorded α) : Checked α := r.outcome.1

/-- A check has its own result. -/
lemma result_ofChecked (c : Checked α) : (ofChecked c).result = c := rfl

/-- What follows a check starts with nothing recorded. -/
theorem result_ofChecked_bind (c : Checked α) (f : α → Recorded β) :
    (ofChecked c >>= f).result = c >>= fun a => (f a).result := by
  cases c <;> rfl

/-- A check at the end does not depend on what was recorded before. -/
theorem result_bind_ofChecked (r : Recorded α) (g : α → Checked β) :
    (r >>= fun a => ofChecked (g a)).result = r.result >>= g := by
  unfold result outcome
  simp only [bind, ExceptT.bind, ExceptT.mk, ExceptT.bindCont, StateT.bind, ExceptT.run, StateT.run]
  rcases r [] with ⟨_ | a, es⟩ <;> rfl

/-- Recording at the end does not fail. -/
lemma result_bind_record (r : Recorded α) (e : α → Event) :
    (r >>= fun a => record (e a)).result = r.result.map fun _ => () := by
  unfold result outcome
  simp only [bind, ExceptT.bind, ExceptT.mk, ExceptT.bindCont, StateT.bind, ExceptT.run, StateT.run]
  rcases r [] with ⟨_ | a, es⟩ <;> rfl

/-- Computations that each yield a value are collected without fail. -/
lemma collect_eq_pure {rs : List (Recorded α)} (h : ∀ r ∈ rs, ∃ a, r = pure a) :
    ∃ as, collect rs = pure as := by
  induction rs with
  | nil => exact ⟨[], rfl⟩
  | cons r rs ih =>
    obtain ⟨a, rfl⟩ := h r List.mem_cons_self
    obtain ⟨as, has⟩ := ih fun q hq => h q (List.mem_cons_of_mem _ hq)
    refine ⟨a :: as, ?_⟩
    unfold collect
    rw [has]
    rfl

/-- Computations of which some fail, all of them alike, and the others only yield a value. -/
lemma collect_eq_error {f : Fault} {rs : List (Recorded α)}
    (h : ∀ r ∈ rs, (∃ a, r = pure a) ∨ r = ofChecked (.error f))
    (hfails : ofChecked (.error f) ∈ rs) : collect rs = ofChecked (.error f) := by
  induction rs with
  | nil => cases hfails
  | cons r rs ih =>
    obtain ⟨hr, hrs⟩ := List.forall_mem_cons.mp h
    unfold collect
    rcases hr with ⟨a, rfl⟩ | rfl
    · rcases List.mem_cons.mp hfails with hfirst | hfails
      · rw [← hfirst]
        rfl
      · rw [ih hrs hfails]
        rfl
    · rfl

end Recorded

end ReadRouting
