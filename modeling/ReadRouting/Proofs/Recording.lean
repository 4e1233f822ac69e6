import ReadRouting.Proofs.Wording

set_option autoImplicit false
set_option relaxedAutoImplicit false

/-!
# Recording is append-only

Showing a value may record events, since showing a cluster asks for its primary. What is recorded is
only ever appended to, and nobody looks at it: so neither the text of a value nor what is recorded
on the way depends on what was recorded before. In particular a warning about several primaries can
be worded if one about more of them can.

## Main definitions

* `ReadRouting.Recorded.Appends` — a computation appends to what was recorded, whatever that is.

## Main results

* `ReadRouting.Value.appends_shown` — showing a value appends.
* `ReadRouting.Recorded.exists_collect_iff` — computations that append are collected without fail
  exactly if none of them fails by itself.
* `ReadRouting.Cluster.canWarn_iff_forall`, `ReadRouting.Cluster.CanWarn.of_sublist` — when a
  warning about several primaries can be worded.
-/

namespace ReadRouting

/-! ## Computations that append to what was recorded -/

namespace Recorded

variable {α β : Type} {r : Recorded α} {f : α → Recorded β}

/-- The computation appends what it records by itself, and has the result that it has by itself,
whatever was recorded before. -/
def Appends (r : Recorded α) : Prop := ∀ es, r.run.run es = (r.outcome.1, es ++ r.outcome.2)

/-- A check appends nothing. -/
lemma appends_ofChecked (c : Checked α) : (ofChecked c).Appends := by
  intro es
  change (c, es) = (c, es ++ [])
  rw [List.append_nil]

/-- A value by itself appends nothing. -/
lemma appends_pure (a : α) : (pure a : Recorded α).Appends := appends_ofChecked (.ok a)

/-- What follows a check has to append only after what the check yields. -/
lemma appends_ofChecked_bind {c : Checked α} (h : ∀ a, c = .ok a → (f a).Appends) :
    (ofChecked c >>= f).Appends := by
  cases c with
  | error e => exact appends_ofChecked (.error e)
  | ok a => exact h a rfl

/-- Recording an event appends it. -/
lemma appends_record (e : Event) : (record e).Appends := fun _ => rfl

/-- A sequence appends what its halves append. -/
lemma Appends.bind (h : r.Appends) (hf : ∀ a, (f a).Appends) : (r >>= f).Appends := by
  intro es
  rcases houtcome : r.outcome with ⟨e | a, new⟩
  · have hr : ∀ es, r.run.run es = (.error e, es ++ new) := fun es => by rw [h es, houtcome]
    rw [outcome, run_bind_error (hr es), run_bind_error (hr []), List.nil_append]
  · have hr : ∀ es, r.run.run es = (.ok a, es ++ new) := fun es => by rw [h es, houtcome]
    rw [outcome, run_bind_ok (hr es), run_bind_ok (hr []), hf a (es ++ new), hf a ([] ++ new),
      List.nil_append, List.append_assoc]

/-- Collecting appends what each computation appends. -/
lemma appends_collect {rs : List (Recorded α)} (h : ∀ r ∈ rs, r.Appends) :
    (collect rs).Appends := by
  induction rs with
  | nil => exact appends_pure []
  | cons r rs ih =>
    obtain ⟨hr, hrs⟩ := List.forall_mem_cons.mp h
    exact hr.bind fun a => (ih hrs).bind fun as => appends_pure (a :: as)

/-- The result of a sequence, if its second half appends. -/
lemma result_bind_of_appends (hf : ∀ a, (f a).Appends) :
    (r >>= f).result = r.result >>= fun a => (f a).result := by
  unfold result
  rcases hr : r.outcome with ⟨e | a, new⟩
  · rw [outcome, run_bind_error hr]
    rfl
  · rw [outcome, run_bind_ok hr, hf a new]
    rfl

/-- Computations that append are collected without fail exactly if none of them fails by itself. -/
theorem exists_collect_iff {rs : List (Recorded α)} (h : ∀ r ∈ rs, r.Appends) :
    (∃ as, (collect rs).result = .ok as) ↔ ∀ r ∈ rs, ∃ a, r.result = .ok a := by
  induction rs with
  | nil => exact ⟨fun _ => nofun, fun _ => ⟨[], rfl⟩⟩
  | cons r rs ih =>
    obtain ⟨-, hrs⟩ := List.forall_mem_cons.mp h
    have hrest : ∀ a, (collect rs >>= fun as => pure (a :: as)).Appends :=
      fun a => (appends_collect hrs).bind fun as => appends_pure (a :: as)
    rw [List.forall_mem_cons, ← ih hrs, collect, result_bind_of_appends hrest]
    simp only [result_bind_of_appends fun as => appends_pure _]
    cases r.result with
    | error e => exact ⟨nofun, nofun⟩
    | ok a =>
      cases (collect rs).result with
      | error e => exact ⟨nofun, nofun⟩
      | ok as => exact ⟨fun _ => ⟨⟨a, rfl⟩, as, rfl⟩, fun _ => ⟨a :: as, rfl⟩⟩

end Recorded

open Recorded

/-- Collecting entries appends what their halves append. -/
lemma appends_collectEntries {entries : List (Recorded String × Recorded String)}
    (h : ∀ e ∈ entries, e.1.Appends ∧ e.2.Appends) : (collectEntries entries).Appends := by
  induction entries with
  | nil => exact appends_pure []
  | cons e rest ih =>
    obtain ⟨⟨hname, hvalue⟩, hrest⟩ := List.forall_mem_cons.mp h
    exact hname.bind fun name => hvalue.bind fun value => (ih hrest).bind fun entries =>
      appends_pure ((name, value) :: entries)

/-- The warning about several primaries is appended. -/
lemma appends_warnOfSeveral {endpoints : List (Recorded String)}
    (h : ∀ r ∈ endpoints, r.Appends) : (warnOfSeveral endpoints).Appends := by
  unfold warnOfSeveral
  split
  · exact (appends_collect h).bind fun texts => appends_record _
  · exact appends_pure ()

/-- A text is displayed without anything being recorded. -/
lemma Value.appends_displayedOr {v : Value} {shown : Recorded String} (h : shown.Appends) :
    (v.displayedOr shown).Appends := by
  cases v with
  | text s => exact appends_pure s
  | _ => exact h

/-- The first two items of an address are items of it. -/
lemma forall_firstTwo {α : Type} {P : α → Prop} {xs : List α} (h : ∀ x ∈ xs, P x) {pair : α × α}
    (hpair : firstTwo xs = .ok pair) : P pair.1 ∧ P pair.2 := by
  rcases xs with _ | ⟨a, _ | ⟨b, rest⟩⟩
  · cases hpair
  · cases hpair
  · cases hpair
    exact ⟨h a List.mem_cons_self, h b (List.mem_cons_of_mem a List.mem_cons_self)⟩

/-- What stands under a number is one of the entries. -/
lemma forall_underNumber {α : Type} {P : α → Prop} {entries : List (Option Key × α)}
    (h : ∀ e ∈ entries, P e.2) {n : Nat} {a : α} (ha : underNumber n entries = .ok a) : P a := by
  unfold underNumber at ha
  split at ha
  · rename_i e hfind
    cases ha
    exact h e (List.mem_of_find?_eq_some hfind)
  · cases ha

/-! ## Showing appends -/

mutual

/-- Showing a value appends. -/
theorem Value.appends_shown (v : Value) : v.shown.Appends := by
  cases v with
  | int n =>
    rw [Value.shown]
    exact appends_ofChecked _
  | list i xs =>
    rw [Value.shown]
    exact (appends_collect (Value.appends_allShown xs)).bind fun _ => appends_pure _
  | tuple xs =>
    rw [Value.shown]
    exact (appends_collect (Value.appends_allShown xs)).bind fun _ => appends_pure _
  | mapping m =>
    rw [Value.shown]
    exact Mapping.appends_shown m
  | label l =>
    rw [Value.shown]
    exact Label.appends_shown l
  | labels s =>
    rw [Value.shown]
    exact (LabelSet.appends_asMapping s).bind fun _ => appends_pure _
  | server s =>
    rw [Value.shown]
    exact Server.appends_shown s
  | cluster c =>
    rw [Value.shown]
    exact Cluster.appends_shown c
  | preference p =>
    rw [Value.shown]
    exact Preference.appends_shown p
  | _ =>
    rw [Value.shown]
    exact appends_pure _
termination_by structural v

/-- Showing each of several values appends. -/
lemma Value.appends_allShown (vs : List Value) : ∀ r ∈ Value.allShown vs, r.Appends := by
  cases vs with
  | nil => exact nofun
  | cons v vs =>
    rw [Value.allShown]
    exact List.forall_mem_cons.mpr ⟨Value.appends_shown v, Value.appends_allShown vs⟩
termination_by structural vs

/-- Displaying each of several values appends. -/
lemma Value.appends_allDisplayed (vs : List Value) :
    ∀ r ∈ Value.allDisplayed vs, r.Appends := by
  cases vs with
  | nil => exact nofun
  | cons v vs =>
    rw [Value.allDisplayed]
    exact List.forall_mem_cons.mpr
      ⟨Value.appends_displayedOr (Value.appends_shown v), Value.appends_allDisplayed vs⟩
termination_by structural vs

/-- Showing keys and values of slots appends. -/
lemma Slot.appends_allShown (slots : List Slot) :
    ∀ e ∈ Slot.allShown slots, e.1.Appends ∧ ∀ r ∈ e.2, r.Appends := by
  cases slots with
  | nil => exact nofun
  | cons slot rest =>
    cases slot with
    | mk key value =>
      cases value with
      | none =>
        rw [Slot.allShown]
        exact List.forall_mem_cons.mpr
          ⟨⟨Value.appends_shown key, nofun⟩, Slot.appends_allShown rest⟩
      | some v =>
        rw [Slot.allShown]
        refine List.forall_mem_cons.mpr
          ⟨⟨Value.appends_shown key, ?_⟩, Slot.appends_allShown rest⟩
        rintro r ⟨⟩
        exact Value.appends_shown v
termination_by structural slots

/-- Displaying the values of slots appends. -/
lemma Slot.appends_allDisplayed (slots : List Slot) :
    ∀ e ∈ Slot.allDisplayed slots, e.2.Appends := by
  cases slots with
  | nil => exact nofun
  | cons slot rest =>
    cases slot with
    | mk key value =>
      cases value with
      | none =>
        rw [Slot.allDisplayed]
        exact Slot.appends_allDisplayed rest
      | some v =>
        rw [Slot.allDisplayed]
        exact List.forall_mem_cons.mpr
          ⟨Value.appends_displayedOr (Value.appends_shown v), Slot.appends_allDisplayed rest⟩
termination_by structural slots

/-- Showing a mapping appends. -/
lemma Mapping.appends_shown (m : Mapping) : m.shown.Appends := by
  cases m with
  | mk kind ident slots =>
    have hparts := Slot.appends_allShown slots
    have hentries : ∀ e ∈ (Slot.allShown slots).filterMap fun p => p.2.map (p.1, ·),
        e.1.Appends ∧ e.2.Appends := by
      intro e he
      obtain ⟨part, hpart, hvalue⟩ := List.mem_filterMap.mp he
      obtain ⟨r, hr, rfl⟩ := Option.map_eq_some_iff.mp hvalue
      exact ⟨(hparts part hpart).1, (hparts part hpart).2 r hr⟩
    rw [Mapping.shown.eq_def]
    cases kind with
    | plain => exact (appends_collectEntries hentries).bind fun _ => appends_pure _
    | document => exact (appends_collectEntries hentries).bind fun _ => appends_pure _
    | ordered =>
      refine (appends_collectEntries ?_).bind fun _ => appends_pure _
      intro e he
      obtain ⟨part, hpart, rfl⟩ := List.mem_map.mp he
      obtain ⟨hkey, hvalue⟩ := hparts part hpart
      refine ⟨hkey, ?_⟩
      cases hr : part.2 with
      | none => exact appends_ofChecked _
      | some r => exact hvalue r hr
termination_by structural m

/-- Showing a label appends. -/
lemma Label.appends_shown (l : Label) : l.shown.Appends := by
  cases l with
  | mk name value =>
    rw [Label.shown]
    exact (Value.appends_shown name).bind fun _ =>
      (Value.appends_shown value).bind fun _ => appends_pure _
termination_by structural l

/-- Showing names and values of labels appends. -/
lemma Label.appends_allShown (ls : List Label) :
    ∀ e ∈ Label.allShown ls, e.2.1.Appends ∧ e.2.2.Appends := by
  cases ls with
  | nil => exact nofun
  | cons l rest =>
    cases l with
    | mk name value =>
      rw [Label.allShown]
      exact List.forall_mem_cons.mpr
        ⟨⟨Value.appends_shown name, Value.appends_shown value⟩, Label.appends_allShown rest⟩
termination_by structural ls

/-- Showing a label set as a mapping appends. -/
lemma LabelSet.appends_asMapping (s : LabelSet) : s.asMapping.Appends := by
  cases s with
  | mk labels =>
    rw [LabelSet.asMapping]
    exact (appends_collectEntries (forall_collapse (Label.appends_allShown labels))).bind
      fun _ => appends_pure _
termination_by structural s

/-- Showing label sets as mappings appends. -/
lemma LabelSet.appends_allAsMappings (ss : List LabelSet) :
    ∀ r ∈ LabelSet.allAsMappings ss, r.Appends := by
  cases ss with
  | nil => exact nofun
  | cons s ss =>
    rw [LabelSet.allAsMappings]
    exact List.forall_mem_cons.mpr
      ⟨LabelSet.appends_asMapping s, LabelSet.appends_allAsMappings ss⟩
termination_by structural ss

/-- Showing a server appends. -/
lemma Server.appends_shown (s : Server) : s.shown.Appends := by
  cases s with
  | mk ident address reachable primary secondary ping labels maxDocumentSize =>
    rw [Server.shown.eq_def]
    refine appends_ofChecked_bind fun parts hparts => ?_
    have hboth : parts.1.Appends ∧ parts.2.Appends := by
      cases address with
      | text t =>
        refine forall_firstTwo (fun r hr => ?_) hparts
        obtain ⟨c, -, rfl⟩ := List.mem_map.mp hr
        exact appends_pure _
      | bytes bs =>
        refine forall_firstTwo (fun r hr => ?_) hparts
        obtain ⟨b, -, rfl⟩ := List.mem_map.mp hr
        exact appends_pure _
      | list i xs => exact forall_firstTwo (Value.appends_allDisplayed xs) hparts
      | tuple xs => exact forall_firstTwo (Value.appends_allDisplayed xs) hparts
      | label l =>
        cases l with
        | mk name value =>
          refine forall_firstTwo (List.forall_mem_cons.mpr ⟨?_, List.forall_mem_singleton.mpr ?_⟩)
            hparts
          · exact Value.appends_displayedOr (Value.appends_shown name)
          · exact Value.appends_displayedOr (Value.appends_shown value)
      | mapping m =>
        cases m with
        | mk kind ident slots =>
          have hslots := Slot.appends_allDisplayed slots
          obtain ⟨a, ha, hparts⟩ := Checked.bind_eq_ok hparts
          obtain ⟨b, hb, hparts⟩ := Checked.bind_eq_ok hparts
          cases hparts
          exact ⟨forall_underNumber hslots ha, forall_underNumber hslots hb⟩
      | _ => cases hparts
    exact hboth.1.bind fun _ => hboth.2.bind fun _ =>
      (appends_ofChecked _).bind fun _ => appends_pure _
termination_by structural s

/-- Showing the address of a server appends. -/
lemma Server.appends_endpoint (s : Server) : s.endpoint.Appends := by
  cases s with
  | mk ident address reachable primary secondary ping labels maxDocumentSize =>
    have hwhole : (address.displayedOr address.shown >>= fun _ =>
        (throw .unsupported : Recorded String)).Appends :=
      (Value.appends_displayedOr (Value.appends_shown address)).bind fun _ =>
        appends_ofChecked (.error .unsupported)
    rw [Server.endpoint.eq_def]
    cases address with
    | tuple xs =>
      have hparts : ∀ r ∈ (Value.allDisplayed xs).take 2, r.Appends :=
        fun r hr => Value.appends_allDisplayed xs r (List.mem_of_mem_take hr)
      refine (appends_collect hparts).bind fun parts => ?_
      split
      · exact appends_pure _
      · exact appends_ofChecked (.error .unsupported)
    | label l =>
      cases l with
      | mk name value =>
        exact (Value.appends_displayedOr (Value.appends_shown name)).bind fun _ =>
          (Value.appends_displayedOr (Value.appends_shown value)).bind fun _ => appends_pure _
    | _ => exact hwhole
termination_by structural s

/-- Showing the addresses of reachable primaries appends. -/
lemma Server.appends_primaryEndpoints (vs : List Value) :
    ∀ r ∈ Server.primaryEndpoints vs, r.Appends := by
  cases vs with
  | nil => exact nofun
  | cons v vs =>
    have hrest := Server.appends_primaryEndpoints vs
    cases v with
    | server s =>
      rw [Server.primaryEndpoints]
      split
      · exact List.forall_mem_cons.mpr ⟨Server.appends_endpoint s, hrest⟩
      · exact hrest
    | _ => exact hrest
termination_by structural vs

/-- Showing a cluster appends. -/
lemma Cluster.appends_shown (c : Cluster) : c.shown.Appends := by
  cases c with
  | mk ident members latency source =>
    rw [Cluster.shown]
    refine (appends_ofChecked _).bind fun _ => ?_
    refine (appends_warnOfSeveral (Server.appends_primaryEndpoints members)).bind fun _ => ?_
    exact (appends_collect (Value.appends_allShown members)).bind fun _ => appends_pure _
termination_by structural c

/-- Showing a read preference appends. -/
lemma Preference.appends_shown (p : Preference) : p.shown.Appends := by
  cases p with
  | mk mode tagSets =>
    rw [Preference.shown]
    exact (appends_collect (LabelSet.appends_allAsMappings tagSets)).bind fun _ => appends_pure _
termination_by structural p

end

/-! ## Warnings about some of the primaries -/

namespace Cluster

variable {c d : Cluster} {servers rest : List Server}

/-- The warning can be worded exactly if none is due, or each reachable primary has an address that
can be. -/
theorem canWarn_iff_forall (hc : c.servers = .ok servers) :
    c.CanWarn ↔ (servers.filter (·.servesAsPrimary)).length < 2 ∨
      ∀ s ∈ servers, s.servesAsPrimary = true → ∃ text, s.endpoint.result = .ok text := by
  have happends : ∀ r ∈ (servers.filter (·.servesAsPrimary)).map Server.endpoint, r.Appends := by
    intro r hr
    obtain ⟨s, -, rfl⟩ := List.mem_map.mp hr
    exact s.appends_endpoint
  rw [canWarn_iff hc, exists_collect_iff happends, List.forall_mem_map]
  simp only [List.mem_filter, and_imp]

/-- If the warning can be worded, then so can one about some of the members. -/
theorem CanWarn.of_sublist (h : c.CanWarn) (hc : c.servers = .ok servers)
    (hd : d.servers = .ok rest) (hsub : rest.Sublist servers) : d.CanWarn := by
  rw [canWarn_iff_forall hc] at h
  rw [canWarn_iff_forall hd]
  rcases h with hfew | hworded
  · exact Or.inl (Nat.lt_of_le_of_lt (hsub.filter _).length_le hfew)
  · exact Or.inr fun s hs => hworded s (hsub.subset hs)

end Cluster

end ReadRouting
