import ReadRouting.Proofs.SelfEquality

set_option autoImplicit false
set_option relaxedAutoImplicit false

/-!
# Storing in equal documents

Equal documents stay equal if alike values are stored under the same key in both, and a document
does not depend, as far as equality goes, on the order in which values are stored in it: only the
last value of each key counts. What depends on it is the order of the keys, in which each has the
place of the first time that something was stored under it.

## Main definitions

* `ReadRouting.StoreCall` — a call that stores a value under a text.
* `ReadRouting.StoreCall.performAll` — a sequence of such calls.
* `ReadRouting.StoreCall.added` — the names that calls add to a document, in their order.

## Main results

* `ReadRouting.Mapping.equals_storeAll` — equal documents, after entries that leave alike values.
* `ReadRouting.StoreCall.run_performAll`, `ReadRouting.StoreCall.order_storeAll` — what any sequence
  of calls does, and the order that it leaves.
* `ReadRouting.Mapping.equals_congruence` — storing in equal documents, and in any order.
-/

namespace ReadRouting

namespace Mapping

variable {d e m : Mapping} {k : Key} {name v w : Value} {entries entries' : List (Value × Value)}

/-! ## One value stored -/

/-- Where something is stored under every name, a key has a slot exactly if something is found under
it. -/
lemma StoresThroughout.isSome_lookup? (h : m.StoresThroughout) (k : Key) :
    (m.lookup? k).isSome = m.slots.any (Slot.isAt k) := by
  rw [Bool.eq_iff_iff]
  constructor
  · intro hsome
    obtain ⟨v, hv⟩ := Option.isSome_iff_exists.mp hsome
    exact any_isAt_of_lookup? hv
  · intro hany
    obtain ⟨s, hs⟩ := Option.isSome_iff_exists.mp (List.find?_isSome.mpr (List.any_eq_true.mp hany))
    rw [lookup?, hs]
    exact h s (List.mem_of_find?_eq_some hs)

/-- A name is added to the order if nothing was found under its key. -/
lemma StoresThroughout.order_store (h : m.StoresThroughout) (k : Key) (name v : Value) :
    (m.store k name v).order =
      if (m.lookup? k).isSome then m.order else m.order ++ [name] := by
  rw [h.isSome_lookup?]
  exact map_key_storeSlots k name v m.slots

/-- Something is stored under every name after several entries are stored. -/
lemma StoresThroughout.storeAll (h : m.StoresThroughout) (entries : List (Value × Value)) :
    (m.storeAll entries).StoresThroughout := by
  have hbefore : ∀ s ∈ m.slots, True ∧ ∃ v, s.value = some v ∧ True := fun s hs =>
    ⟨trivial, (Option.isSome_iff_exists.mp (h s hs)).imp fun _ hv => ⟨hv, trivial⟩⟩
  have hslots : ∀ s ∈ (m.storeAll entries).slots, True ∧ ∃ v, s.value = some v ∧ True :=
    forall_slots_storeAll (P := fun _ => True) (Q := fun _ => True) hbefore
      fun _ _ => ⟨trivial, trivial⟩
  intro s hs
  obtain ⟨-, v, hv, -⟩ := hslots s hs
  exact Option.isSome_of_eq_some hv

/-! ## Entries stored in equal documents -/

/-- **Equal documents stay equal** if entries are stored in each of them that leave alike values
under the same keys.

**Proof sketch.** Equality goes key by key. What is found under a key afterwards is the last value
stored there, or what was found before where there is none; both are alike in the two documents. -/
theorem equals_storeAll (hd : d.Regular) (he : e.Regular)
    (h : (Value.mapping d).equals (.mapping e) = .ok true)
    (hentries : ∀ e ∈ entries, e.1.isHashable = true)
    (hentries' : ∀ e ∈ entries', e.1.isHashable = true)
    (hlast : ∀ k, SameFound (lastStored? entries k) (lastStored? entries' k)) :
    (Value.mapping (d.storeAll entries)).equals (.mapping (e.storeAll entries')) = .ok true := by
  rw [equals_eq_alike hd.kind he.kind, alike_iff hd he] at h
  obtain ⟨hstores, hfound⟩ := h
  have hd' := hd.storeAll hentries
  have he' := he.storeAll hentries'
  rw [equals_eq_alike hd'.kind he'.kind, alike_iff hd' he']
  refine ⟨hstores.storeAll entries, fun k => ?_⟩
  rw [lookup?_storeAll hentries, lookup?_storeAll hentries']
  exact (hlast k).or (hfound k)

/-- Two entries with one name leave alike values under the same keys if their values are alike. -/
lemma sameFound_singleton (name : Value) (h : v.alike w = .ok true) (k : Key) :
    SameFound (lastStored? [(name, v)] k) (lastStored? [(name, w)] k) := by
  have hone : ∀ u, lastStored? [(name, u)] k = if name.key? == some k then some u else none := by
    intro u
    simp only [lastStored?, List.findRev?_eq_find?_reverse, List.reverse_singleton,
      List.find?_singleton]
    split <;> rfl
  rw [hone, hone]
  split
  · exact .some h
  · exact .none

/-- What two mappings hold under a key is alike also where nothing counts as null. -/
lemma SameFound.alike_getD {found found' : Option Value} (h : SameFound found found') :
    (found.getD .null).alike (found'.getD .null) = .ok true := by
  cases h with
  | none => rfl
  | some hvw => exact hvw

end Mapping

/-! ## Calls that store -/

/-- A call that stores a value under a text. -/
inductive StoreCall
  /-- Yields what was stored there before, or null. -/
  | put (name : String) (v : Value)
  /-- Yields the document. -/
  | append (name : String) (v : Value)

namespace StoreCall

open Mapping

variable {m : Mapping} {c : StoreCall} {calls calls' : List StoreCall}

/-- The text under which a call stores its value. -/
def name : StoreCall → String
  | put name _ => name
  | append name _ => name

/-- The value that a call stores. -/
def value : StoreCall → Value
  | put _ v => v
  | append _ v => v

/-- The edit that a call makes. -/
def edit : StoreCall → KeyedEdit
  | put name v => .put (.text name) v
  | append name v => .append (.text name) v

/-- What a call stores. -/
def entry (c : StoreCall) : Value × Value := (.text c.name, c.value)

/-- Makes calls one after the other. -/
def performAll : List StoreCall → Editing Unit
  | [] => pure ()
  | c :: rest => do
    let _ ← c.edit.perform
    performAll rest

/-- The value of the last call for a name, if there is any. -/
def lastValue? (calls : List StoreCall) (name : String) : Option Value :=
  lastStored? (calls.map entry) (.text name)

/-- The names that calls add to a mapping, in the order of the first call for each. -/
def added (m : Mapping) (calls : List StoreCall) : List String :=
  ((calls.map name).filter fun n => (m.lookup? (.text n)).isNone).eraseDups

/-- Putting under a text yields what was found there. -/
lemma run_put_text (name : String) (v : Value) (m : Mapping) :
    (Mapping.put (.text name) v).run.run m =
      (.ok ((m.lookup? (.text name)).getD .null), m.store (.text name) (.text name) v) :=
  run_put (.text name) v m

/-- Appending under a text yields the document. -/
lemma run_append_text (name : String) (v : Value) (m : Mapping) :
    (KeyedEdit.append (.text name) v).perform.run.run m =
      (.ok (some (.mapping (m.store (.text name) (.text name) v))),
        m.store (.text name) (.text name) v) :=
  run_bind_ok (run_set rfl m)

/-- **What one call does.** It succeeds, and stores its value. -/
lemma run_perform (c : StoreCall) (m : Mapping) :
    ∃ yielded, c.edit.perform.run.run m =
      (.ok yielded, m.store (.text c.name) (.text c.name) c.value) := by
  cases c with
  | put name v => exact ⟨_, run_bind_ok (run_put_text name v m)⟩
  | append name v => exact ⟨_, run_append_text name v m⟩

/-- **What any sequence of calls does.** It succeeds, and stores all values. -/
theorem run_performAll (calls : List StoreCall) (m : Mapping) :
    (performAll calls).run.run m = (.ok (), m.storeAll (calls.map entry)) := by
  induction calls generalizing m with
  | nil => rfl
  | cons c rest ih =>
    obtain ⟨yielded, hrun⟩ := c.run_perform m
    rw [List.map_cons, storeAll_cons (k := .text c.name) rfl, ← ih]
    exact run_bind_ok hrun

/-- The names of calls can be used as keys. -/
lemma isHashable_entries (calls : List StoreCall) :
    ∀ e ∈ calls.map entry, e.1.isHashable = true :=
  List.forall_mem_map.mpr fun _ _ => rfl

/-- The value stored last is that of one of the calls. -/
lemma exists_of_lastStored?_entries {k : Key} {v : Value}
    (h : lastStored? (calls.map entry) k = some v) :
    ∃ c ∈ calls, k = .text c.name ∧ c.value = v := by
  obtain ⟨e, he, hk, hv⟩ := exists_of_lastStored? h
  obtain ⟨c, hc, rfl⟩ := List.mem_map.mp he
  exact ⟨c, hc, (Option.some.inj hk).symm, hv⟩

/-- Calls that store the same last under each name leave alike values under each key, if what the
first ones store is alike itself. -/
lemma sameFound_lastStored? (hself : ∀ c ∈ calls, c.value.alike c.value = .ok true)
    (hlast : ∀ name, lastValue? calls name = lastValue? calls' name) (k : Key) :
    SameFound (lastStored? (calls.map entry) k) (lastStored? (calls'.map entry) k) := by
  have hsame : lastStored? (calls'.map entry) k = lastStored? (calls.map entry) k := by
    by_contra hne
    -- a key under which something is stored on either side is a text
    have htext : ∃ name, k = .text name := by
      cases hv : lastStored? (calls.map entry) k with
      | some v =>
        obtain ⟨c, -, hk, -⟩ := exists_of_lastStored?_entries hv
        exact ⟨_, hk⟩
      | none =>
        obtain ⟨w, hw⟩ := Option.ne_none_iff_exists'.mp (hv ▸ hne)
        obtain ⟨c, -, hk, -⟩ := exists_of_lastStored?_entries hw
        exact ⟨_, hk⟩
    obtain ⟨name, rfl⟩ := htext
    exact hne (hlast name).symm
  rw [hsame]
  cases hv : lastStored? (calls.map entry) k with
  | none => exact .none
  | some v =>
    obtain ⟨c, hc, -, rfl⟩ := exists_of_lastStored?_entries hv
    exact .some (hself c hc)

/-- Under its own name nothing is missing after a call, and under any other what was missing
before. -/
lemma isNone_lookup?_store (m : Mapping) (c : StoreCall) (n : String) :
    ((m.store (.text c.name) (.text c.name) c.value).lookup? (.text n)).isNone =
      (!(n == c.name) && (m.lookup? (.text n)).isNone) := by
  by_cases hn : n = c.name
  · rw [hn, lookup?_store_self _ _ _ _ rfl, beq_self_eq_true]
    rfl
  · have hne : Key.text n ≠ .text c.name := fun h => hn (Key.text.inj h)
    rw [lookup?_store_of_ne m hne _ _ rfl, beq_false_of_ne hn]
    rfl

/-- A call adds its name if it is not there, and the calls after it add what is then not there. -/
lemma added_cons (m : Mapping) (c : StoreCall) (rest : List StoreCall) :
    added m (c :: rest) = (if (m.lookup? (.text c.name)).isSome then [] else [c.name]) ++
      added (m.store (.text c.name) (.text c.name) c.value) rest := by
  unfold added
  simp only [isNone_lookup?_store]
  rw [List.map_cons, List.filter_cons]
  cases hold : m.lookup? (.text c.name) with
  | some old =>
    -- the name of the call does not count as new anyway
    have hnew : ∀ n, (!(n == c.name) && (m.lookup? (.text n)).isNone) =
        (m.lookup? (.text n)).isNone := by
      intro n
      by_cases hn : n = c.name
      · rw [hn, hold]
        exact Bool.and_false _
      · rw [beq_false_of_ne hn]
        rfl
    simp only [hnew]
    rfl
  | none =>
    simp only [Option.isNone_none, if_true, List.eraseDups_cons, List.filter_filter]
    rfl

/-- A sequence of calls adds the names that were not there, each at its first call.

**Proof sketch.** By induction on the sequence from its first call, for all mappings before it. If
the name of the first call is new, it comes right after those that were there, and later calls for
it no longer count as new. -/
theorem order_storeAll (hm : m.StoresThroughout) (calls : List StoreCall) :
    (m.storeAll (calls.map entry)).order = m.order ++ (added m calls).map .text := by
  induction calls generalizing m with
  | nil => exact (List.append_nil _).symm
  | cons c rest ih =>
    have hafter : (m.store (.text c.name) (.text c.name) c.value).StoresThroughout :=
      hm.storeAll [c.entry]
    rw [List.map_cons, storeAll_cons (k := .text c.name) rfl]
    refine (ih hafter).trans ?_
    rw [hm.order_store, added_cons, List.map_append, ← List.append_assoc]
    split
    · rw [List.map_nil, List.append_nil]
    · rfl

end StoreCall

namespace Mapping

open StoreCall

/-- What is found under a text after a sequence of calls: the last value given for it, or what was
there. -/
lemma lookup?_storeAll_calls (m : Mapping) (calls : List StoreCall) (name : String) :
    (m.storeAll (calls.map entry)).lookup? (.text name) =
      (lastValue? calls name).or (m.lookup? (.text name)) :=
  lookup?_storeAll (isHashable_entries calls) (.text name)

/-- **Equality of documents is a congruence for storing, and forgets the order of it.** If alike
values are put under the same text in two equal documents, the calls yield alike values, which are
what was there, and the documents stay equal; so they do if the values are appended, which yields
the documents. Two sequences of such calls that leave the same value under each text make the same
document equal: both succeed and leave those values, and what was there where there are none; and
both keep the order of what was there, and add each new name at its first call.

The first part holds whatever the documents store. For the second, nothing in the document and in
the values of one sequence may be not a number, and the mappings in them must be dictionaries, with
no name that a failed edit has left behind. -/
theorem equals_congruence :
    (∀ {d e : Mapping} {v w : Value} (name : String), d.IsReached → e.IsReached →
      (Value.mapping d).equals (.mapping e) = .ok true → v.alike w = .ok true →
      ∃ old old' d' e', (put (.text name) v).run.run d = (.ok old, d') ∧
        (put (.text name) w).run.run e = (.ok old', e') ∧ old.alike old' = .ok true ∧
        old = (d.lookup? (.text name)).getD .null ∧ d'.lookup? (.text name) = some v ∧
        (Value.mapping d').equals (.mapping e') = .ok true ∧
        (KeyedEdit.append (.text name) v).perform.run.run d = (.ok (some (.mapping d')), d') ∧
        (KeyedEdit.append (.text name) w).perform.run.run e = (.ok (some (.mapping e')), e')) ∧
    (∀ {d : Mapping} {calls calls' : List StoreCall}, d.kind = .document →
      (Value.mapping d).IsNaNFree → (Value.mapping d).HoldsDictionaries →
      (∀ c ∈ calls, c.value.IsNaNFree ∧ c.value.HoldsDictionaries) →
      (∀ name, lastValue? calls name = lastValue? calls' name) →
      ∃ d₁ d₂, (performAll calls).run.run d = (.ok (), d₁) ∧
        (performAll calls').run.run d = (.ok (), d₂) ∧
        (Value.mapping d₁).equals (.mapping d₂) = .ok true ∧
        (∀ name, d₁.lookup? (.text name) = (lastValue? calls name).or (d.lookup? (.text name)) ∧
          d₂.lookup? (.text name) = d₁.lookup? (.text name)) ∧
        d₁.order = d.order ++ (added d calls).map .text ∧
        d₂.order = d.order ++ (added d calls').map .text) := by
  constructor
  · intro d e v w name hd he h hvw
    have hlookup : SameFound (d.lookup? (.text name)) (e.lookup? (.text name)) := by
      rw [equals_eq_alike hd.sound.kind he.sound.kind, alike_iff hd.regular he.regular] at h
      exact h.2 (.text name)
    have hafter := equals_storeAll hd.regular he.regular h
      (isHashable_entries [.put name v]) (isHashable_entries [.put name w])
      (sameFound_singleton (.text name) hvw)
    exact ⟨_, _, _, _, run_put_text name v d, run_put_text name w e, hlookup.alike_getD, rfl,
      lookup?_store_self d _ _ v rfl, hafter, run_append_text name v d, run_append_text name w e⟩
  · intro d calls calls' hkind hnan hdict hcalls hlast
    have hregular : d.Regular := (hdict.self d rfl).regular hkind
    have hstores : d.StoresThroughout := (hdict.self d rfl).stores
    have hself : (Value.mapping d).equals (.mapping d) = .ok true :=
      Value.compare_self hnan hdict .strict false
    have hvalues : ∀ c ∈ calls, c.value.alike c.value = .ok true := fun c hc =>
      Value.compare_self (hcalls c hc).1 (hcalls c hc).2 .structural false
    have hafter := equals_storeAll hregular hregular hself (isHashable_entries calls)
      (isHashable_entries calls') (sameFound_lastStored? hvalues hlast)
    refine ⟨_, _, run_performAll calls d, run_performAll calls' d, hafter, fun name => ?_,
      order_storeAll hstores calls, order_storeAll hstores calls'⟩
    refine ⟨lookup?_storeAll_calls d calls name, ?_⟩
    rw [lookup?_storeAll_calls, lookup?_storeAll_calls, hlast]

/-- An integer and a float of its value, in two documents; and two names added in either order, one
of them twice. -/
theorem equals_congruence_either_order :
    let entry (name : String) (v : Value) : Slot := ⟨.text name, some v⟩
    let d : Mapping := ⟨.document, none, [entry "n" (.ofInt 1)]⟩
    let e : Mapping := ⟨.document, none, [entry "n" (.ofFloat 1.0)]⟩
    let calls : List StoreCall := [.put "b" .null, .put "a" (.ofInt 2), .append "b" (.ofInt 3)]
    let calls' : List StoreCall := [.append "a" (.ofInt 2), .put "b" (.ofInt 3)]
    d.IsReached ∧ e.IsReached ∧ (Value.mapping d).equals (.mapping e) = .ok true ∧
      (Value.ofInt 2).alike (.ofFloat 2.0) = .ok true ∧
      (Value.mapping d).IsNaNFree ∧ (Value.mapping d).HoldsDictionaries ∧
      (∀ c ∈ calls, c.value.IsNaNFree ∧ c.value.HoldsDictionaries) ∧
      (∀ name, lastValue? calls name = lastValue? calls' name) ∧
      (∃ old old' d' e', (put (.text "n") (.ofInt 2)).run.run d = (.ok old, d') ∧
        (put (.text "n") (.ofFloat 2.0)).run.run e = (.ok old', e') ∧
        old.alike old' = .ok true ∧ (Value.mapping d').equals (.mapping e') = .ok true) ∧
      ∃ d₁ d₂, (performAll calls).run.run d = (.ok (), d₁) ∧
        (performAll calls').run.run d = (.ok (), d₂) ∧
        (Value.mapping d₁).equals (.mapping d₂) = .ok true ∧
        d₁.order = [.text "n", .text "b", .text "a"] ∧
        d₂.order = [.text "n", .text "a", .text "b"] := by
  intro entry d e calls calls'
  have hd : d.IsReached := .edit (.new none) (.keyed (.set (.text "n") (.ofInt 1)))
  have he : e.IsReached := .edit (.new none) (.keyed (.set (.text "n") (.ofFloat 1.0)))
  have hequal : (Value.mapping d).equals (.mapping e) = .ok true := rfl
  have halike : (Value.ofInt 2).alike (.ofFloat 2.0) = .ok true := rfl
  have hint : ∀ n, (Value.ofInt n).IsNaNFree ∧ (Value.ofInt n).HoldsDictionaries := fun n =>
    ⟨.of_parts_eq_nil (by simp [Value.ofInt]) rfl, .of_parts_eq_nil (by simp [Value.ofInt]) rfl⟩
  have hdict : d.IsDictionary := by
    refine ⟨?_, ?_, List.pairwise_singleton _ _⟩ <;>
      simp [d, entry, StoresThroughout, Value.isHashable, Value.key?]
  have hnan : (Value.mapping d).IsNaNFree :=
    .intro (by simp) fun u hu => by
      rw [List.mem_singleton.mp hu]
      exact (hint 1).1
  have hdicts : (Value.mapping d).HoldsDictionaries := by
    refine .intro (fun m hm => ?_) fun u hu => ?_
    · cases hm
      exact hdict
    · rw [List.mem_singleton.mp hu]
      exact (hint 1).2
  have hcalls : ∀ c ∈ calls, c.value.IsNaNFree ∧ c.value.HoldsDictionaries := by
    simp only [calls, List.forall_mem_cons]
    exact ⟨⟨.of_parts_eq_nil (by simp [StoreCall.value]) rfl,
      .of_parts_eq_nil (by simp [StoreCall.value]) rfl⟩, hint 2, hint 3, List.forall_mem_nil _⟩
  have hlast : ∀ name, lastValue? calls name = lastValue? calls' name := by
    intro name
    by_cases hb : "b" = name
    · subst hb
      rfl
    · by_cases ha : "a" = name
      · subst ha
        rfl
      · simp [lastValue?, lastStored?, List.findRev?_eq_find?_reverse, calls, calls',
          StoreCall.entry, StoreCall.name, Value.key?, ha, hb]
  obtain ⟨hcongruence, hsequences⟩ := equals_congruence
  obtain ⟨old, old', d', e', hput, hput', hold, -, -, hafter, -⟩ :=
    hcongruence "n" hd he hequal halike
  obtain ⟨d₁, d₂, hrun, hrun', hsame, -, horder, horder'⟩ :=
    hsequences rfl hnan hdicts hcalls hlast
  refine ⟨hd, he, hequal, halike, hnan, hdicts, hcalls, hlast,
    ⟨old, old', d', e', hput, hput', hold, hafter⟩, d₁, d₂, hrun, hrun', hsame, ?_, ?_⟩
  · rw [horder]
    rfl
  · rw [horder']
    rfl

end Mapping

end ReadRouting
