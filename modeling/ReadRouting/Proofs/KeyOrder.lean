import Mathlib.Data.List.Sort
import ReadRouting.Value.Equality

set_option autoImplicit false
set_option relaxedAutoImplicit false

/-!
# The order of keys

Label sets are equal whatever the order of their labels, so their key must not depend on it either:
it holds the keys of the labels sorted. They are sorted by how they are spelled as integers, and
since different keys are spelled differently, a rearrangement of keys has the same keys in the same
places once it is sorted.

## Main definitions

* `ReadRouting.SelfDelimiting` — what is spelled can be read off the beginning of a sequence.

## Main results

* `ReadRouting.Key.spell_selfDelimiting` — the spelling of a key tells where it ends, and which key
  it is.
* `ReadRouting.Key.sorted_eq_of_perm` — sorted keys do not depend on the order before.
* `ReadRouting.LabelSet.key?_eq_of_sameLabels`, `ReadRouting.Preference.key?_eq_of_same` — equal
  label sets, and equal read preferences, have equal keys.
-/

namespace ReadRouting

/-- A spelling as integers by which what is spelled can be read off the beginning of a sequence. -/
def SelfDelimiting {α : Type} (spell : α → List Int) : Prop :=
  ∀ {a b : α} {rest rest' : List Int}, spell a ++ rest = spell b ++ rest' → a = b ∧ rest = rest'

namespace SelfDelimiting

variable {α β : Type}

/-- A spelling by a fixed number of integers tells where it ends. -/
lemma of_length {f : α → List Int} (n : Nat) (hlength : ∀ a, (f a).length = n)
    (hinjective : Function.Injective f) : SelfDelimiting f := by
  intro a b rest rest' h
  obtain ⟨hab, hrest⟩ := List.append_inj h (by rw [hlength, hlength])
  exact ⟨hinjective hab, hrest⟩

/-- A spelling by one integer tells where it ends. -/
lemma single {f : α → Int} (hinjective : Function.Injective f) :
    SelfDelimiting fun a => [f a] :=
  of_length 1 (fun _ => rfl) fun _ _ h => hinjective (List.cons.inj h).1

/-- So does a run of integers that comes after its length. -/
lemma counted {f : α → Int} (hinjective : Function.Injective f) :
    SelfDelimiting fun as : List α => (as.length : Int) :: as.map f := by
  intro as bs rest rest' h
  obtain ⟨hlength, h⟩ := List.cons.inj h
  have hlength' : (as.map f).length = (bs.map f).length := by
    rw [List.length_map, List.length_map]
    exact Int.ofNat.inj hlength
  obtain ⟨hab, hrest⟩ := List.append_inj h hlength'
  exact ⟨hinjective.list_map hab, hrest⟩

end SelfDelimiting

namespace Key

/-! ## Spellings -/

/-- A text can be read off. -/
lemma spellText_selfDelimiting : SelfDelimiting spellText := by
  intro s t rest rest' h
  have hchars : Function.Injective fun c : Char => (c.toNat : Int) :=
    fun c d h => Char.toNat_inj.mp (Int.ofNat.inj h)
  obtain ⟨hlist, hrest⟩ := SelfDelimiting.counted hchars (a := s.toList) (b := t.toList) h
  exact ⟨String.toList_injective hlist, hrest⟩

/-- A byte string can be read off. -/
lemma spellBytes_selfDelimiting : SelfDelimiting spellBytes := by
  apply SelfDelimiting.counted
  intro b c h
  exact UInt8.toNat.inj (Int.ofNat.inj h)

/-- A pattern can be read off. -/
lemma spellPattern_selfDelimiting : SelfDelimiting spellPattern := by
  intro p q rest rest' h
  cases p with
  | text s =>
    cases q with
    | text t =>
      obtain ⟨rfl, hrest⟩ := spellText_selfDelimiting (List.cons.inj h).2
      exact ⟨rfl, hrest⟩
    | bytes cs => simp [spellPattern] at h
  | bytes bs =>
    cases q with
    | text t => simp [spellPattern] at h
    | bytes cs =>
      obtain ⟨rfl, hrest⟩ := spellBytes_selfDelimiting (List.cons.inj h).2
      exact ⟨rfl, hrest⟩

/-- Truth values are different integers. -/
lemma bit_injective : Function.Injective fun b : Bool => if b then (1 : Int) else 0 := by
  intro b c h
  cases b <;> cases c <;> first | rfl | cases h

/-- Pattern flags can be read off. -/
lemma spellFlags_selfDelimiting : SelfDelimiting spellFlags := by
  refine SelfDelimiting.of_length 7 (fun _ => rfl) fun f g h => ?_
  have hflags := bit_injective.list_map h
  obtain ⟨a, i, l, m, d, u, v⟩ := f
  obtain ⟨a', i', l', m', d', u', v'⟩ := g
  simp only [List.cons.injEq, and_true] at hflags
  obtain ⟨rfl, rfl, rfl, rfl, rfl, rfl, rfl⟩ := hflags
  rfl

/-- Different identities are different integers. -/
lemma spellIdent_injective : Function.Injective spellIdent := by
  intro i j h
  cases i <;> cases j <;> simp only [spellIdent] at h
  · rfl
  · omega
  · omega
  · rw [Int.ofNat.inj h]

/-- Different modes are different integers. -/
lemma spellMode_injective : Function.Injective spellMode := by
  intro m n h
  cases m <;> cases n <;> first | rfl | cases h

/-- Different server types are different integers. -/
lemma spellServerType_injective : Function.Injective spellServerType := by
  intro t u h
  cases t <;> cases u <;> first | rfl | cases h

/-- Different cluster types are different integers. -/
lemma spellClusterType_injective : Function.Injective spellClusterType := by
  intro t u h
  cases t <;> cases u <;> first | rfl | cases h

/-- A number in lowest terms can be read off. -/
lemma spellRat_selfDelimiting : SelfDelimiting fun q : Rat => [q.num, (q.den : Int)] := by
  refine SelfDelimiting.of_length (f := fun q : Rat => [q.num, (q.den : Int)]) 2 (fun _ => rfl) ?_
  intro q q' h
  obtain ⟨hnum, h⟩ := List.cons.inj h
  exact Rat.ext hnum (Int.ofNat.inj (List.cons.inj h).1)

/-- The spelling of a key tells where it ends, and which key it is.

**Proof sketch.** Induction on the first key. The first integer tells what kind of key is spelled,
so that the second key is of the same kind; what follows is read off part by part. -/
theorem spell_selfDelimiting : SelfDelimiting spell := by
  intro k l rest rest' h
  induction k generalizing l rest rest' with
  | null =>
    cases l with
    | null => exact ⟨rfl, (List.cons.inj h).2⟩
    | _ => simp [spell] at h
  | number q =>
    cases l with
    | number q' =>
      obtain ⟨rfl, hrest⟩ := spellRat_selfDelimiting (List.cons.inj h).2
      exact ⟨rfl, hrest⟩
    | _ => simp [spell] at h
  | infinite negative =>
    cases l with
    | infinite negative' =>
      obtain ⟨rfl, hrest⟩ := SelfDelimiting.single bit_injective (List.cons.inj h).2
      exact ⟨rfl, hrest⟩
    | _ => simp [spell] at h
  | nan i =>
    cases l with
    | nan j =>
      obtain ⟨rfl, hrest⟩ := SelfDelimiting.single spellIdent_injective (List.cons.inj h).2
      exact ⟨rfl, hrest⟩
    | _ => simp [spell] at h
  | text s =>
    cases l with
    | text t =>
      obtain ⟨rfl, hrest⟩ := spellText_selfDelimiting (List.cons.inj h).2
      exact ⟨rfl, hrest⟩
    | _ => simp [spell] at h
  | bytes bs =>
    cases l with
    | bytes cs =>
      obtain ⟨rfl, hrest⟩ := spellBytes_selfDelimiting (List.cons.inj h).2
      exact ⟨rfl, hrest⟩
    | _ => simp [spell] at h
  | compiled p flags =>
    cases l with
    | compiled q flags' =>
      simp only [spell, List.cons_append, List.append_assoc, List.cons.injEq, true_and] at h
      obtain ⟨rfl, hflags⟩ := spellPattern_selfDelimiting h
      obtain ⟨rfl, hrest⟩ := spellFlags_selfDelimiting hflags
      exact ⟨rfl, hrest⟩
    | _ => simp [spell] at h
  | object i =>
    cases l with
    | object j =>
      obtain ⟨rfl, hrest⟩ := SelfDelimiting.single spellIdent_injective (List.cons.inj h).2
      exact ⟨rfl, hrest⟩
    | _ => simp [spell] at h
  | sharedSource =>
    cases l with
    | sharedSource => exact ⟨rfl, (List.cons.inj h).2⟩
    | _ => simp [spell] at h
  | mode m =>
    cases l with
    | mode n =>
      obtain ⟨rfl, hrest⟩ := SelfDelimiting.single spellMode_injective (List.cons.inj h).2
      exact ⟨rfl, hrest⟩
    | _ => simp [spell] at h
  | serverType t =>
    cases l with
    | serverType u =>
      obtain ⟨rfl, hrest⟩ := SelfDelimiting.single spellServerType_injective (List.cons.inj h).2
      exact ⟨rfl, hrest⟩
    | _ => simp [spell] at h
  | clusterType t =>
    cases l with
    | clusterType u =>
      obtain ⟨rfl, hrest⟩ := SelfDelimiting.single spellClusterType_injective (List.cons.inj h).2
      exact ⟨rfl, hrest⟩
    | _ => simp [spell] at h
  | nil =>
    cases l with
    | nil => exact ⟨rfl, (List.cons.inj h).2⟩
    | _ => simp [spell] at h
  | pair head tail ihhead ihtail =>
    cases l with
    | pair head' tail' =>
      simp only [spell, List.cons_append, List.append_assoc, List.cons.injEq, true_and] at h
      obtain ⟨rfl, htail⟩ := ihhead h
      obtain ⟨rfl, hrest⟩ := ihtail htail
      exact ⟨rfl, hrest⟩
    | _ => simp [spell] at h
  | labels ks ih =>
    cases l with
    | labels ls =>
      obtain ⟨rfl, hrest⟩ := ih (List.cons.inj h).2
      exact ⟨rfl, hrest⟩
    | _ => simp [spell] at h
  | server ks ih =>
    cases l with
    | server ls =>
      obtain ⟨rfl, hrest⟩ := ih (List.cons.inj h).2
      exact ⟨rfl, hrest⟩
    | _ => simp [spell] at h
  | preference m ks ih =>
    cases l with
    | preference n ls =>
      obtain ⟨rfl, hks⟩ := SelfDelimiting.single spellMode_injective (List.cons.inj h).2
      obtain ⟨rfl, hrest⟩ := ih hks
      exact ⟨rfl, hrest⟩
    | _ => simp [spell] at h

/-- Different keys are spelled differently. -/
lemma spell_injective : Function.Injective spell := by
  intro k l h
  exact (spell_selfDelimiting (congrArg (· ++ []) h)).1

/-! ## Sorting -/

section Precedes

variable {as bs cs : List Int}

/-- Of two sequences the first element that differs decides. -/
lemma precedes_cons_iff {a b : Int} :
    precedes (a :: as) (b :: bs) = true ↔ a < b ∨ a = b ∧ precedes as bs = true := by
  simp [precedes]

/-- What comes before something comes before whatever that comes before. -/
lemma precedes_trans (hab : precedes as bs = true) (hbc : precedes bs cs = true) :
    precedes as cs = true := by
  induction as generalizing bs cs with
  | nil => rfl
  | cons a as ih =>
    match bs, cs with
    | [], _ => cases hab
    | b :: bs, [] => cases hbc
    | b :: bs, c :: cs =>
      rw [precedes_cons_iff] at hab hbc ⊢
      rcases hab with hab | ⟨rfl, hab⟩ <;> rcases hbc with hbc | ⟨rfl, hbc⟩
      · exact Or.inl (by omega)
      · exact Or.inl hab
      · exact Or.inl hbc
      · exact Or.inr ⟨rfl, ih hab hbc⟩

/-- One of two sequences comes before the other, or they are the same. -/
lemma precedes_total (as bs : List Int) : precedes as bs = true ∨ precedes bs as = true := by
  induction as generalizing bs with
  | nil => exact Or.inl rfl
  | cons a as ih =>
    cases bs with
    | nil => exact Or.inr rfl
    | cons b bs =>
      rw [precedes_cons_iff, precedes_cons_iff]
      rcases Int.lt_trichotomy a b with hlt | rfl | hgt
      · exact Or.inl (Or.inl hlt)
      · rcases ih bs with h | h
        · exact Or.inl (Or.inr ⟨rfl, h⟩)
        · exact Or.inr (Or.inr ⟨rfl, h⟩)
      · exact Or.inr (Or.inl hgt)

/-- Two sequences that come before each other are the same. -/
lemma precedes_antisymm (hab : precedes as bs = true) (hba : precedes bs as = true) :
    as = bs := by
  induction as generalizing bs with
  | nil =>
    cases bs with
    | nil => rfl
    | cons b bs => cases hba
  | cons a as ih =>
    cases bs with
    | nil => cases hab
    | cons b bs =>
      rw [precedes_cons_iff] at hab hba
      rcases hab with hab | ⟨rfl, hab⟩ <;> rcases hba with hba | ⟨heq, hba⟩
      · omega
      · omega
      · omega
      · rw [ih hab hba]

end Precedes

/-- Keys are in order if their spellings are. -/
def Le (k l : Key) : Prop := precedes k.spell l.spell = true

instance : DecidableRel Le := fun k l =>
  inferInstanceAs (Decidable (precedes k.spell l.spell = true))

instance : Std.Antisymm Le := ⟨fun _ _ hkl hlk => spell_injective (precedes_antisymm hkl hlk)⟩

instance : Std.Total Le := ⟨fun k l => precedes_total k.spell l.spell⟩

instance : IsTrans Key Le := ⟨fun _ _ _ hkl hlm => precedes_trans hkl hlm⟩

/-- Keys are sorted by insertion. -/
lemma sorted_eq_insertionSort (ks : List Key) : sorted ks = ks.insertionSort Le := by
  have hinsert : ∀ (k : Key) (js : List Key), insertSorted k js = js.orderedInsert Le k := by
    intro k js
    induction js with
    | nil => rfl
    | cons j js ih =>
      rw [insertSorted, List.orderedInsert, ih]
      rfl
  induction ks with
  | nil => rfl
  | cons k ks ih => rw [sorted, ih, hinsert, List.insertionSort_cons]

/-- Sorted keys do not depend on the order before. -/
theorem sorted_eq_of_perm {ks ls : List Key} (h : ks.Perm ls) : sorted ks = sorted ls := by
  rw [sorted_eq_insertionSort, sorted_eq_insertionSort]
  have hperm : (ks.insertionSort Le).Perm (ls.insertionSort Le) :=
    (List.perm_insertionSort Le ks).trans (h.trans (List.perm_insertionSort Le ls).symm)
  exact hperm.eq_of_pairwise' (List.pairwise_insertionSort Le ks)
    (List.pairwise_insertionSort Le ls)

end Key

/-! ## Label sets and read preferences -/

/-- A label has the key of its fields. -/
lemma Label.key?_eq_runKey? (l : Label) : l.key? = Value.runKey? l.fields := by
  obtain ⟨name, value⟩ := l
  simp only [Label.key?, Label.fields, Value.runKey?]
  cases name.key? <;> cases value.key? <;> rfl

namespace LabelSet

variable {s t : LabelSet} {ss ts : List LabelSet}

/-- Labels have keys together if each has one. -/
lemma keysOf?_eq (labels : List Label) :
    keysOf? labels =
      if (labels.map Label.key?).all Option.isSome then some ((labels.map Label.key?).filterMap id)
      else none := by
  induction labels with
  | nil => rfl
  | cons l labels ih =>
    simp only [keysOf?, ih, List.map_cons, List.all_cons, List.filterMap_cons, id_eq]
    cases l.key? with
    | none => rfl
    | some k => cases (labels.map Label.key?).all Option.isSome <;> rfl

/-- Equal label sets have equal keys, or none. -/
theorem key?_eq_of_sameLabels (h : s.sameLabels t = true) : s.key? = t.key? := by
  have hperm : (s.labels.map Label.key?).Perm (t.labels.map Label.key?) :=
    (sameLabels_iff s t).mp h
  obtain ⟨labels⟩ := s
  obtain ⟨labels'⟩ := t
  rw [key?, key?, keysOf?_eq, keysOf?_eq, hperm.all_eq]
  split
  · simp only [Option.map_some, Key.sorted_eq_of_perm (hperm.filterMap id)]
  · rfl

/-- The same for label sets position by position. -/
lemma runKey?_eq_of_sameAll (h : sameAll ss ts = true) : runKey? ss = runKey? ts := by
  induction ss generalizing ts with
  | nil =>
    cases ts with
    | nil => rfl
    | cons t ts => cases h
  | cons s ss ih =>
    cases ts with
    | nil => cases h
    | cons t ts =>
      rw [sameAll, Bool.and_eq_true] at h
      simp only [runKey?, key?_eq_of_sameLabels h.1, ih h.2]

end LabelSet

/-- Equal read preferences have equal keys, or none. -/
theorem Preference.key?_eq_of_same {p q : Preference} (h : p.same q = true) : p.key? = q.key? := by
  obtain ⟨mode, tagSets⟩ := p
  obtain ⟨mode', tagSets'⟩ := q
  rw [same, Bool.and_eq_true, beq_iff_eq] at h
  obtain ⟨rfl, hsets⟩ := h
  rw [key?, key?, LabelSet.runKey?_eq_of_sameAll hsets]

end ReadRouting
