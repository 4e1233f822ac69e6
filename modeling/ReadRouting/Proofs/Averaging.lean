import ReadRouting.MovingAverage
import ReadRouting.Proofs.Results
import ReadRouting.Workspace

set_option autoImplicit false
set_option relaxedAutoImplicit false

/-!
# Averages sample by sample

An average over many samples at once is the one that is reached by adding them one by one, from
however many of them it starts. That the samples are forgotten but for the last five does not
matter: a new average is computed from the one before, never from what is kept.

## Main definitions

* `ReadRouting.Value.IsNumeric` — a sample that can be averaged.

## Main results

* `ReadRouting.MovingAverage.foldlM_step` — samples can be averaged, or are too large for it.
* `ReadRouting.MovingAverage.ofList_append` — one more sample, at once or afterwards.
* `ReadRouting.MovingAverage.foldlM_add_eq_ofSamples` — samples at once, or the last of them one by
  one.
-/

namespace ReadRouting

/-- A number, or a truth value that is one or zero. -/
def Value.IsNumeric (v : Value) : Prop := v.number?.isSome = true

instance (v : Value) : Decidable v.IsNumeric := inferInstanceAs (Decidable (_ = true))

/-- The product of a number with a float is a float, unless the number is too large for one. -/
lemma Number.scale_eq (weight : Float) (n : Number) :
    (∃ x, n.scale weight = .ok x) ∨ n.scale weight = .error .tooLarge := by
  cases n with
  | int n =>
    simp only [scale, toFloat]
    cases Binary64.ofInt? n with
    | some x => exact Or.inl ⟨_, rfl⟩
    | none => exact Or.inr rfl
  | float x => exact Or.inl ⟨_, rfl⟩

namespace MovingAverage

variable {xs ys zs rest : List Value} {first average x : Value}

/-! ## Steps -/

/-- The average of numbers is a number, unless one of them is too large. -/
lemma step_eq (haverage : average.IsNumeric) (hx : x.IsNumeric) :
    (∃ next : Value, next.IsNumeric ∧ step average x = .ok next) ∨
      step average x = .error .tooLarge := by
  obtain ⟨m, hm⟩ := Option.isSome_iff_exists.mp haverage
  obtain ⟨n, hn⟩ := Option.isSome_iff_exists.mp hx
  have hm' : average.number = .ok m := by rw [Value.number, hm]
  have hn' : x.number = .ok n := by rw [Value.number, hn]
  unfold step
  simp only [hm', hn', bind, Except.bind]
  rcases n.scale_eq weight with ⟨fresh, hfresh⟩ | hfresh
  · rcases m.scale_eq (1 - weight) with ⟨old, hold⟩ | hold
    · exact Or.inl ⟨.ofFloat (fresh + old), rfl, by rw [hfresh, hold]; rfl⟩
    · exact Or.inr (by rw [hfresh, hold])
  · exact Or.inr (by rw [hfresh])

/-- Several numbers have an average that is a number, unless one of them is too large. -/
theorem foldlM_step (hfirst : first.IsNumeric) (hrest : ∀ x ∈ rest, x.IsNumeric) :
    (∃ last : Value, last.IsNumeric ∧ rest.foldlM step first = .ok last) ∨
      rest.foldlM step first = .error .tooLarge := by
  induction rest generalizing first with
  | nil => exact Or.inl ⟨first, hfirst, rfl⟩
  | cons x rest ih =>
    obtain ⟨hx, hrest⟩ := List.forall_mem_cons.mp hrest
    rw [List.foldlM_cons]
    rcases step_eq hfirst hx with ⟨next, hnext, hstep⟩ | hstep
    · rw [hstep]
      exact ih hnext hrest
    · rw [hstep]
      exact Or.inr rfl

/-- A number is no missing average. -/
lemma ofValue?_eq_some (hx : x.IsNumeric) : ofValue? x = some x := by
  cases x <;> first | rfl | cases hx

/-- Several samples have the average that the steps end with. -/
lemma ofList_cons (hfirst : first.IsNumeric) (hrest : ∀ x ∈ rest, x.IsNumeric) :
    ofList (first :: rest) none =
      (rest.foldlM step first).map fun last => ⟨none, recent (first :: rest), some last⟩ := by
  have haverage : averageOf (first :: rest) = (rest.foldlM step first).map some := by
    change (rest.foldlM step first >>= fun last => pure (ofValue? last)) = _
    rcases foldlM_step hfirst hrest with ⟨last, hlast, hfold⟩ | hfold
    · rw [hfold]
      exact congrArg Except.ok (ofValue?_eq_some hlast)
    · rw [hfold]
      rfl
  unfold ofList
  simp only [haverage]
  cases rest.foldlM step first <;> rfl

/-! ## One more sample -/

/-- The most recent samples can be told from those kept before. -/
lemma recent_append_recent (xs ys : List Value) :
    recent (recent xs ++ ys) = recent (xs ++ ys) := by
  unfold recent
  have hdropped : xs.length - keptSamples ≤ xs.length := Nat.sub_le _ _
  rw [← List.drop_append_of_le_length hdropped, List.drop_drop]
  congr 1
  simp only [List.length_drop, List.length_append]
  omega

/-- One more sample makes the same average, whether it is given at once or added afterwards. -/
theorem ofList_append (hxs : ∀ y ∈ xs, y.IsNumeric) (hx : x.IsNumeric) :
    (ofList xs none >>= fun a => a.add x) = ofList (xs ++ [x]) none := by
  cases xs with
  | nil => rfl
  | cons first rest =>
    obtain ⟨hfirst, hrest⟩ := List.forall_mem_cons.mp hxs
    have hrest' : ∀ y ∈ rest ++ [x], y.IsNumeric := by
      intro y hy
      rcases List.mem_append.mp hy with hy | hy
      · exact hrest y hy
      · rw [List.mem_singleton.mp hy]
        exact hx
    rw [List.cons_append, ofList_cons hfirst hrest, ofList_cons hfirst hrest', List.foldlM_append]
    cases rest.foldlM step first with
    | error f => rfl
    | ok last =>
      change (step last x >>= fun next => ofList (recent (first :: rest) ++ [x]) (some next)) = _
      have hone : [x].foldlM step last = step last x := by
        rw [List.foldlM_cons]
        cases step last x <;> rfl
      change _ = ([x].foldlM step last).map _
      rw [hone]
      cases step last x with
      | error f => rfl
      | ok next =>
        have hkept := recent_append_recent (first :: rest) [x]
        exact congrArg (fun kept => Except.ok (MovingAverage.mk none kept (some next))) hkept

/-- Samples that are added one by one make the average of all of them. -/
lemma foldlM_add (hys : ∀ y ∈ ys, y.IsNumeric) (hzs : ∀ z ∈ zs, z.IsNumeric) :
    (ofList ys none >>= fun a => zs.foldlM add a) = ofList (ys ++ zs) none := by
  induction zs generalizing ys with
  | nil =>
    rw [List.append_nil]
    exact bind_pure _
  | cons z zs ih =>
    obtain ⟨hz, hzs⟩ := List.forall_mem_cons.mp hzs
    have hys' : ∀ y ∈ ys ++ [z], y.IsNumeric := by
      intro y hy
      rcases List.mem_append.mp hy with hy | hy
      · exact hys y hy
      · rw [List.mem_singleton.mp hy]
        exact hz
    calc (ofList ys none >>= fun a => (z :: zs).foldlM add a)
        = ((ofList ys none >>= fun a => a.add z) >>= fun a => zs.foldlM add a) := by
          simp only [List.foldlM_cons, bind_assoc]
      _ = ofList (ys ++ z :: zs) none := by
          rw [ofList_append hys hz, ih hys' hzs, List.append_assoc, List.singleton_append]

end MovingAverage

/-! ## In a workspace -/

/-- A new average is another object: everything that has a name stays as it is, and so do the random
sources and what was recorded. -/
lemma Session.run_addSample {name : String} {a : MovingAverage} {w : Workspace}
    (h : w.bindings.lookup name = some (.average a)) (sample : Value) :
    (∀ f, a.add sample = .error f → (addSample name sample).run.run w = (.error f, w)) ∧
    (∀ b, a.add sample = .ok b → ∃ v next,
      (addSample name sample).run.run w = (.ok v, { w with next := next })) := by
  have hlookup : (lookup? name).run.run w = (.ok (some (.average a)), w) :=
    congrArg (fun found => (Except.ok found, w)) h
  rw [addSample, run_bind_ok hlookup]
  constructor
  · intro f hadd
    simp only [hadd]
    rfl
  · intro b hadd
    simp only [hadd]
    exact ⟨_, _, rfl⟩

namespace MovingAverage

variable {xs ys zs : List Value}

/-- **Samples at once, or one by one.** If some of several samples are averaged at once and the
others added one by one, the average is the same as that of all of them at once, and so are the
samples that are kept: the last five, although the average takes all into account. Both ways fail
alike, and only for a number that is too large for a float. In a workspace a new average is another
object: whether there is one or not, the one that a sample is added to stays as it is.

**Proof sketch.** Induction on the samples that are added. One more sample leads from the average of
the samples before to that of all, since it continues the same steps; what is kept of what was kept
is what is kept of all. -/
theorem foldlM_add_eq_ofSamples {all start : Value} (hall : all.items = .ok xs)
    (hstart : start.items = .ok ys) (hsplit : xs = ys ++ zs) (hne : xs ≠ [])
    (hnumeric : ∀ x ∈ xs, x.IsNumeric) :
    (ofSamples start .null >>= fun a => zs.foldlM add a) = ofSamples all .null ∧
    (∀ a, ofSamples all .null = .ok a →
      a.samples = xs.drop (xs.length - 5) ∧
        ∃ first rest last, xs = first :: rest ∧ rest.foldlM step first = .ok last ∧
          a.current = some last) ∧
    (∀ f, ofSamples all .null = .error f → f = .tooLarge) ∧
    (∀ name a w, w.bindings.lookup name = some (.average a) → ∀ sample,
      (∀ f, a.add sample = .error f →
        (Session.addSample name sample).run.run w = (.error f, w)) ∧
      (∀ b, a.add sample = .ok b → ∃ v next,
        (Session.addSample name sample).run.run w = (.ok v, { w with next := next }))) := by
  have hofSamples : ∀ {v : Value} {vs : List Value}, v.items = .ok vs →
      ofSamples v .null = ofList vs none := by
    intro v vs hv
    unfold ofSamples
    rw [hv]
    rfl
  rw [hofSamples hall, hofSamples hstart]
  obtain ⟨first, rest, hcons⟩ := List.exists_cons_of_ne_nil hne
  have hfirst : first.IsNumeric ∧ ∀ x ∈ rest, x.IsNumeric := by
    rw [hcons] at hnumeric
    exact List.forall_mem_cons.mp hnumeric
  have hofList : ofList xs none =
      (rest.foldlM step first).map fun last => ⟨none, recent xs, some last⟩ := by
    rw [hcons, ofList_cons hfirst.1 hfirst.2]
  refine ⟨?_, ?_, ?_, fun name a w => Session.run_addSample⟩
  · subst hsplit
    exact foldlM_add (fun y hy => hnumeric y (List.mem_append_left zs hy))
      (fun z hz => hnumeric z (List.mem_append_right ys hz))
  · intro a ha
    rw [hofList] at ha
    cases hfold : rest.foldlM step first with
    | error f =>
      rw [hfold] at ha
      cases ha
    | ok last =>
      rw [hfold] at ha
      cases ha
      exact ⟨rfl, first, rest, last, hcons, hfold, rfl⟩
  · intro f hf
    rw [hofList] at hf
    rcases foldlM_step hfirst.1 hfirst.2 with ⟨last, -, hfold⟩ | hfold
    · rw [hfold] at hf
      cases hf
    · rw [hfold] at hf
      cases hf
      rfl

/-- Seven samples of several kinds, two at once and five one by one. -/
theorem foldlM_add_eq_ofSamples_seven :
    let ys : List Value := [.ofInt 10, .ofFloat 20.5]
    let zs : List Value := [.bool true, .ofInt 40, .ofInt 7, .ofFloat 60.25, .ofInt 3]
    (Value.tuple (ys ++ zs)).items = .ok (ys ++ zs) ∧ (Value.ofList ys).items = .ok ys ∧
      ys ++ zs ≠ [] ∧ (∀ x ∈ ys ++ zs, x.IsNumeric) ∧
      (ofSamples (.ofList ys) .null >>= fun a => zs.foldlM add a) =
        ofSamples (.tuple (ys ++ zs)) .null := by
  intro ys zs
  have hall : (Value.tuple (ys ++ zs)).items = .ok (ys ++ zs) := rfl
  have hstart : (Value.ofList ys).items = .ok ys := rfl
  have hnumeric : ∀ x ∈ ys ++ zs, x.IsNumeric := by decide
  exact ⟨hall, hstart, nofun, hnumeric,
    (foldlM_add_eq_ofSamples hall hstart rfl nofun hnumeric).1⟩

/-- An average of nothing has no reading, and one of a single sample is that sample. -/
example : (ofSamples (.ofList []) .null).map (·.current) = .ok none ∧
    (ofSamples (.ofList [.ofInt 10]) .null).map (·.current) = .ok (some (.ofInt 10)) :=
  ⟨rfl, rfl⟩

end MovingAverage

end ReadRouting
