import ReadRouting.Proofs.Answer
import ReadRouting.Proofs.Recording

set_option autoImplicit false
set_option relaxedAutoImplicit false

/-!
# What choosing records

One call of choosing records a warning if several primaries are reachable and the mode asks for the
primary, which names all of them in order of discovery; then that nobody is eligible, if it comes to
nobody; and nothing else. Among servers that were described with checks two things can spoil this.
If a port is too long to be written, the warning fails, and takes the record and the choice with it.
And a record is worded only when it is written: what the names and values in the tag sets record
while they are shown comes before it.

## Main definitions

* `ReadRouting.Recorded.Yields` — the result of a computation and the events that it appends.
* `ReadRouting.Preference.AsksForPrimary` — the mode gets to ask for the primary.
* `ReadRouting.Preference.IsQuiet` — showing the names and values in the tag sets records nothing.

## Main results

* `ReadRouting.Cluster.warnIfSplit_yields` — what asking for the primary records.
* `ReadRouting.Preference.select_yields` — what each mode records.
* `ReadRouting.Session.log_choose` — the log of a step that chooses.
* `ReadRouting.Preference.choose_logs` — what choosing records, and what its log says.
-/

namespace ReadRouting

/-! ## Results together with events -/

namespace Recorded

variable {α β : Type} {r : Recorded α} {f : α → Recorded β} {c : Checked α} {a : α}
  {events later : List Event}

/-- The computation has a result and appends events, whatever was recorded before. -/
def Yields (r : Recorded α) (result : Checked α) (events : List Event) : Prop :=
  ∀ es, r.run.run es = (result, es ++ events)

/-- What a computation yields is its result. -/
lemma Yields.result_eq (h : r.Yields c events) : r.result = c := congrArg Prod.fst (h [])

/-- A check yields its result and records nothing. -/
lemma yields_ofChecked (c : Checked α) : (ofChecked c).Yields c [] := by
  intro es
  rw [List.append_nil]
  rfl

/-- A value by itself records nothing. -/
lemma yields_pure (a : α) : (pure a : Recorded α).Yields (.ok a) [] := yields_ofChecked (.ok a)

/-- Recording yields the event. -/
lemma yields_record (e : Event) : (record e).Yields (.ok ()) [e] := fun _ => rfl

/-- A sequence appends the events of its halves in order. -/
lemma Yields.bind {result : Checked β} (h : r.Yields (.ok a) events)
    (hf : (f a).Yields result later) : (r >>= f).Yields result (events ++ later) := by
  intro es
  rw [run_bind_ok (h es), hf, List.append_assoc]

/-- What follows a failure records nothing. -/
lemma Yields.bind_error {e : Fault} (h : r.Yields (.error e) events) :
    (r >>= f).Yields (.error e) events := fun es => run_bind_error (h es)

/-- A check at the end adds its result. -/
lemma Yields.bind_ofChecked {g : Checked β} (h : r.Yields (.ok a) events) :
    (r >>= fun _ => ofChecked g).Yields g events := by
  have hbind := h.bind (f := fun _ => ofChecked g) (yields_ofChecked g)
  rwa [List.append_nil] at hbind

end Recorded

open Recorded

/-! ## The warning -/

/-- The host and the port of an address with a colon between them. -/
def Address.endpoint (a : Address) : String := a.host ++ ":" ++ toString a.port.value

/-- The warning that names several reachable primaries. -/
def Event.ofPrimaries (primaries : List Address) : Event :=
  .severalPrimaries primaries.length (commaSeparated (primaries.map Address.endpoint))

/-- Addresses that can be written are worded one by one. -/
lemma Server.collect_endpoints {servers : List Server} {addresses : List Address}
    (h : servers.map (·.address) = addresses.map Address.toValue)
    (hwritable : ∀ a ∈ addresses, a.IsWritable) :
    Recorded.collect (servers.map endpoint) = pure (addresses.map Address.endpoint) := by
  induction servers generalizing addresses with
  | nil =>
    obtain rfl : addresses = [] := List.map_eq_nil_iff.mp h.symm
    rfl
  | cons s ss ih =>
    cases addresses with
    | nil => cases h
    | cons a addresses =>
      obtain ⟨ha, hrest⟩ := List.cons.inj h
      obtain ⟨hfirst, hothers⟩ := List.forall_mem_cons.mp hwritable
      rw [List.map_cons, Recorded.collect, endpoint_of_address ha hfirst, ih hrest hothers]
      rfl

namespace Cluster

variable {c : Cluster} {servers : List Server} {primaries : List Address}

/-- The reachable primaries among servers that were described with checks have addresses. -/
lemma exists_primaries (hmade : ∀ s ∈ servers, s.Made) :
    ∃ primaries : List Address,
      (servers.filter (·.servesAsPrimary)).map (·.address) = primaries.map Address.toValue := by
  have haddress : ∀ s ∈ servers.filter (·.servesAsPrimary),
      ∃ a : Address, a.toValue = s.address := by
    intro s hs
    obtain ⟨a, ha⟩ := (hmade s (List.mem_filter.mp hs).1).exists_address
    exact ⟨a, ha.symm⟩
  generalize servers.filter (·.servesAsPrimary) = found at haddress
  induction found with
  | nil => exact ⟨[], rfl⟩
  | cons s found ih =>
    obtain ⟨⟨a, ha⟩, hrest⟩ := List.forall_mem_cons.mp haddress
    obtain ⟨primaries, hprimaries⟩ := ih hrest
    exact ⟨a :: primaries, by rw [List.map_cons, List.map_cons, ha, hprimaries]⟩

section Primaries

variable (hc : c.servers = .ok servers)
  (hprimaries : (servers.filter (·.servesAsPrimary)).map (·.address) =
    primaries.map Address.toValue)
include hprimaries

/-- There are as many reachable primaries as addresses of such. -/
lemma length_primaries : (servers.filter (·.servesAsPrimary)).length = primaries.length := by
  have hlength := congrArg List.length hprimaries
  rwa [List.length_map, List.length_map] at hlength

/-- The warning fails exactly if it is due and one of the addresses cannot be written. -/
lemma hasUnwritablePrimary_iff : Server.HasUnwritablePrimary servers ↔
    2 ≤ primaries.length ∧ ∃ a ∈ primaries, ¬ a.IsWritable := by
  unfold Server.HasUnwritablePrimary
  rw [length_primaries hprimaries]
  refine and_congr_right fun _ => ?_
  constructor
  · rintro ⟨s, hs, hprimary, a, ha, hlong⟩
    have hmem : s.address ∈ primaries.map Address.toValue :=
      hprimaries ▸ List.mem_map_of_mem (List.mem_filter.mpr ⟨hs, hprimary⟩)
    rw [ha, List.mem_map] at hmem
    obtain ⟨b, hb, heq⟩ := hmem
    exact ⟨b, hb, Address.toValue_injective heq ▸ hlong⟩
  · rintro ⟨a, ha, hlong⟩
    have hmem : a.toValue ∈ (servers.filter (·.servesAsPrimary)).map (·.address) :=
      hprimaries ▸ List.mem_map_of_mem ha
    obtain ⟨s, hs, heq⟩ := List.mem_map.mp hmem
    obtain ⟨hmem, hprimary⟩ := List.mem_filter.mp hs
    exact ⟨s, hmem, hprimary, a, heq, hlong⟩

include hc in
/-- **What asking for the primary records**: one warning that names all reachable primaries if there
are several, and nothing otherwise. -/
theorem warnIfSplit_yields
    (hwritable : 2 ≤ primaries.length → ∀ a ∈ primaries, a.IsWritable) :
    c.warnIfSplit.Yields (.ok ())
      (if 2 ≤ primaries.length then [.ofPrimaries primaries] else []) := by
  unfold warnIfSplit warnOfSeveral
  rw [servers_eq_ok_iff.mp hc, Server.primaryEndpoints_map, List.length_map,
    length_primaries hprimaries]
  split
  · next hseveral =>
    rw [Server.collect_endpoints hprimaries (hwritable hseveral)]
    intro es
    change _ = (Except.ok (), es ++ [_])
    rw [Event.ofPrimaries, ← primaries.length_map Address.endpoint]
    rfl
  · exact yields_pure ()

end Primaries

end Cluster

/-! ## Selections -/

namespace Preference

variable {p : Preference} {c : Cluster} {servers : List Server} {sel : Selection}
  {events : List Event}

/-- The mode asks for the primary: that of the secondaries never does, and the one that prefers them
does so only if no reachable secondary carries any of the tag sets. -/
def AsksForPrimary (p : Preference) (servers : List Server) : Prop :=
  p.mode ≠ .secondary ∧ (p.mode = .secondaryPreferred →
    ∀ t ∈ p.effectiveTagSets, ∀ s ∈ servers, s.servesAsSecondary = true → ¬ s.Carries t)

instance (p : Preference) (servers : List Server) : Decidable (p.AsksForPrimary servers) :=
  inferInstanceAs (Decidable (_ ∧ _))

/-- A draw among the secondaries comes to nobody if none of them carries any tag set. -/
lemma drawSecondary_eq_nobody (h : ∀ t ∈ p.effectiveTagSets, ∀ s ∈ servers,
    s.servesAsSecondary = true → ¬ s.Carries t) : p.drawSecondary c servers = .ok .nobody := by
  refine Server.selectTagged_eq_nobody (fun t ht s hs => ?_) _
  obtain ⟨hmem, hsecondary⟩ := List.mem_filter.mp hs
  exact h t ht s hmem hsecondary

/-- The mode that prefers secondaries asks for the primary exactly if it draws nobody. -/
lemma asksForPrimary_iff_isNobody (hmode : p.mode = .secondaryPreferred)
    (hdraw : p.drawSecondary c servers = .ok sel) :
    p.AsksForPrimary servers ↔ sel.isNobody = true := by
  constructor
  · rintro ⟨-, hnone⟩
    rw [drawSecondary_eq_nobody (hnone hmode)] at hdraw
    cases hdraw
    rfl
  · intro hnobody
    refine ⟨by rw [hmode]; nofun, fun _ t ht s hs hsecondary => ?_⟩
    exact Server.not_carries_of_selectTagged hdraw hnobody t ht s
      (List.mem_filter.mpr ⟨hs, hsecondary⟩)

section Selections

variable (hc : c.servers = .ok servers)
include hc

/-- A mode that asks for the primary asks once, and goes on with a check.

**Proof sketch.** By mode. What is drawn from the secondaries is a check, so that it does not matter
for what is recorded whether it comes before the primary, after it, or not at all. -/
lemma select_of_asksForPrimary (hasks : p.AsksForPrimary servers) :
    ∃ rest, p.select c = c.warnIfSplit >>= fun _ => Recorded.ofChecked rest := by
  obtain ⟨hmode, hnone⟩ := hasks
  unfold select
  cases hp : p.mode with
  | primary => exact ⟨_, selectPrimary_eq hc⟩
  | secondary => exact absurd hp hmode
  | primaryPreferred =>
    refine ⟨fallBack (.ok (.ofPrimary (Cluster.firstPrimary? servers))) (p.drawSecondary c servers),
      ?_⟩
    unfold orElse
    rw [selectPrimary_eq hc, selectSecondary_eq hc, bind_assoc]
    refine congrArg (c.warnIfSplit >>= ·) (funext fun _ => ?_)
    cases Cluster.firstPrimary? servers <;> rfl
  | secondaryPreferred =>
    refine ⟨_, Eq.trans ?_ (selectPrimary_eq hc)⟩
    unfold orElse
    rw [selectSecondary_eq hc, drawSecondary_eq_nobody (hnone hp)]
    rfl
  | nearest => exact ⟨_, selectReadable_eq hc⟩

/-- A mode that does not ask for the primary is a check. -/
lemma select_of_not_asksForPrimary (hasks : ¬ p.AsksForPrimary servers) :
    ∃ rest, p.select c = Recorded.ofChecked rest := by
  unfold select
  cases hp : p.mode with
  | secondary => exact ⟨_, selectSecondary_eq hc⟩
  | secondaryPreferred =>
    refine ⟨p.drawSecondary c servers, ?_⟩
    rw [selectSecondary_eq hc]
    cases hdraw : p.drawSecondary c servers with
    | error f => rfl
    | ok sel =>
      have hsomebody : ¬ sel.isNobody = true := mt (asksForPrimary_iff_isNobody hp hdraw).mpr hasks
      change (if sel.isNobody then _ else _) = _
      rw [if_neg hsomebody]
      rfl
  | _ => exact absurd ⟨by rw [hp]; nofun, by rw [hp]; nofun⟩ hasks

end Selections

/-- That nobody is eligible is the last event of choosing. -/
lemma choose_yields (h : (p.select c).Yields (.ok sel) events) :
    (p.choose c).Yields (.ok sel)
      (events ++ if sel.isNobody then [.noneEligible p] else []) := by
  unfold choose
  refine h.bind ?_
  cases sel.isNobody with
  | true => exact (yields_record _).bind (yields_pure sel)
  | false => exact yields_pure sel

end Preference

/-- A source that answers ends with nobody exactly if the selection comes to nobody. -/
lemma Selection.Answerable.consult_isNobody {sel : Selection} (h : sel.Answerable) {σ : Type}
    {choice : Source σ} (hchoice : choice.Answers) (st : σ) :
    ∃ r, ((sel.consult choice).run st).1 = .ok r ∧ (r = none ↔ sel.isNobody = true) := by
  cases sel with
  | nobody => exact ⟨none, rfl, fun _ => rfl, fun _ => rfl⟩
  | certain s => exact ⟨some s, rfl, nofun, nofun⟩
  | draw pool =>
    obtain ⟨s, -, hs⟩ := hchoice pool h st
    exact ⟨some s, Selection.consult_draw_eq_ok_iff.mpr ⟨s, hs, rfl⟩, nofun, nofun⟩

/-! ## The log of a step -/

/-- A position that is not found is out of range. -/
lemma DrawPlan.position_eq_error {plan : DrawPlan} {earlier size : Nat} {f : Fault}
    (h : plan.position earlier size = .error f) : f = .outOfRange := by
  unfold position at h
  cases plan with
  | fixed i =>
    unfold ReadRouting.position at h
    dsimp only at h
    generalize (if i < 0 then i + (size : Int) else i) = fromStart at h
    split at h <;> cases h
    rfl
  | _ =>
    dsimp only at h
    split at h <;> cases h
    rfl

/-- A draw that fails is out of range. -/
lemma RandomSource.draw_eq_error {α : Type} {r : RandomSource} {earlier : Nat} {xs : List α}
    {f : Fault} (h : r.draw earlier xs = .error f) : f = .outOfRange := by
  unfold draw at h
  rcases hi : r.plan.position earlier xs.length with g | i
  · rw [hi] at h
    cases h
    exact DrawPlan.position_eq_error hi
  · simp only [hi, bind, Except.bind] at h
    split at h <;> cases h
    rfl

namespace Session

variable {α : Type} {result : Checked α} {after : Workspace} {p : Preference} {c : Cluster}
  {sel : Selection} {events : List Event}

/-- Noting the candidates that are offered changes nothing else. -/
lemma run_notePool (r : RandomSource) (pool : List Server) (w : Workspace) :
    ∃ pools, (notePool r pool).run.run w = (.ok (), { w with pools := pools }) := by
  unfold notePool
  split
  · exact ⟨w.pools, rfl⟩
  · exact ⟨w.pools ++ [pool], rfl⟩

/-- Asking a scripted source records nothing, and fails only out of range. -/
lemma run_ask (r : RandomSource) (pool : List Server) (w : Workspace) :
    ∃ answer after, (ask r pool).run.run w = (answer, after) ∧ after.events = w.events ∧
      ∀ f, answer = .error f → f = .outOfRange := by
  obtain ⟨pools, hpools⟩ := run_notePool r pool w
  unfold ask
  rw [run_bind_ok hpools]
  let earlier := (w.draws.lookup r.ident).getD 0
  change ∃ answer after,
    (ofChecked (r.draw earlier pool) >>= fun s => countDraw r earlier >>= fun _ => pure s :
      Session Server).run.run { w with pools := pools } = (answer, after) ∧ _
  cases hdraw : r.draw earlier pool with
  | error f =>
    refine ⟨.error f, _, rfl, rfl, ?_⟩
    rintro g ⟨⟩
    exact RandomSource.draw_eq_error hdraw
  | ok s => exact ⟨.ok s, _, rfl, rfl, nofun⟩

/-- Carrying a selection out records nothing, and fails only out of range. -/
lemma run_consult_ask (r : RandomSource) (sel : Selection) (w : Workspace) :
    ∃ answer after, (sel.consult (ask r)).run.run w = (answer, after) ∧ after.events = w.events ∧
      ∀ f, answer = .error f → f = .outOfRange := by
  cases sel with
  | nobody => exact ⟨.ok none, w, rfl, rfl, nofun⟩
  | certain s => exact ⟨.ok (some s), w, rfl, rfl, nofun⟩
  | draw pool =>
    obtain ⟨answer, after, hrun, hevents, hfails⟩ := run_ask r pool w
    change ∃ answer after, (some <$> ask r pool).run.run w = (answer, after) ∧ _
    rw [map_eq_pure_bind]
    cases answer with
    | error f =>
      refine ⟨.error f, after, run_bind_error hrun, hevents, ?_⟩
      rintro g ⟨⟩
      exact hfails f rfl
    | ok s => exact ⟨.ok (some s), after, run_bind_ok hrun, hevents, nofun⟩

/-- The log of a step has the events that it recorded, if what it fails with has no wording that
could record more. -/
lemma log_finish {step : Session α} {w : Workspace}
    (h : step.run.run { w with events := [], pools := [] } = (result, after))
    (hplain : ∀ f, result = .error f → f.report = pure ⟨f.kind, none⟩) :
    (finish step w).1.log = (Event.wordAll after.events).1 := by
  unfold finish
  rw [h]
  cases result with
  | ok a => rfl
  | error f =>
    dsimp only
    rw [hplain f rfl]
    rfl

/-- **The log of choosing** has the events that are recorded before the draw, with every scripted
source. -/
theorem log_choose (h : (p.choose c).Yields (.ok sel) events) (w : Workspace) :
    (finish (Session.choose p c) w).1.log = (Event.wordAll events).1 := by
  let start : Workspace := { w with events := [], pools := [] }
  have hrecorded : (ofRecorded (p.choose c)).run.run start =
      (.ok sel, { start with events := events }) := by
    change ((fun r => (r.1, { start with events := r.2 })) ((p.choose c).run.run [])) = _
    rw [h []]
    rfl
  obtain ⟨answer, after, hrun, hevents, hfails⟩ :=
    run_consult_ask c.source sel { start with events := events }
  have hchoose : (Session.choose p c).run.run start = (answer, after) := by
    rw [choose_eq_consult, run_bind_ok hrecorded, hrun]
  rw [log_finish hchoose, hevents]
  intro f hf
  rw [hfails f hf]
  rfl

/-- If choosing fails for a warning that cannot be worded, then the log is empty. -/
lemma log_choose_eq_nil (h : (p.choose c).Yields (.error .illFormed) []) (w : Workspace) :
    (finish (Session.choose p c) w).1.log = [] := by
  let start : Workspace := { w with events := [], pools := [] }
  have hrecorded : (ofRecorded (p.choose c)).run.run start = (.error .illFormed, start) := by
    change ((fun r => (r.1, { start with events := r.2 })) ((p.choose c).run.run [])) = _
    rw [h []]
    rfl
  have hchoose : (Session.choose p c).run.run start = (.error .illFormed, start) := by
    rw [choose_eq_consult, run_bind_error hrecorded]
  rw [log_finish hchoose]
  · rfl
  · rintro f ⟨⟩
    rfl

end Session

/-! ## The texts of the log -/

namespace Recorded

variable {α β : Type} {r : Recorded α} {f : α → Recorded β}

/-- The computation yields a value, and records nothing. -/
def Quiet (r : Recorded α) : Prop := ∃ a, r = pure a

/-- A sequence is quiet if its halves are. -/
lemma Quiet.bind (h : r.Quiet) (hf : ∀ a, (f a).Quiet) : (r >>= f).Quiet := by
  obtain ⟨a, rfl⟩ := h
  rw [pure_bind]
  exact hf a

end Recorded

/-- Entries whose halves are quiet are collected quietly. -/
lemma quiet_collectEntries {entries : List (Recorded String × Recorded String)}
    (h : ∀ e ∈ entries, e.1.Quiet ∧ e.2.Quiet) : (collectEntries entries).Quiet := by
  induction entries with
  | nil => exact ⟨[], rfl⟩
  | cons e rest ih =>
    obtain ⟨⟨hname, hvalue⟩, hrest⟩ := List.forall_mem_cons.mp h
    exact hname.bind fun name => hvalue.bind fun value => (ih hrest).bind fun texts =>
      ⟨(name, value) :: texts, rfl⟩

/-- Showing the names and values of a label set records nothing, and does not fail. -/
def LabelSet.IsQuiet (s : LabelSet) : Prop :=
  ∀ l ∈ s.labels, l.name.shown.Quiet ∧ l.value.shown.Quiet

/-- Showing such a label set as a mapping records nothing. -/
lemma LabelSet.IsQuiet.quiet_asMapping {s : LabelSet} (h : s.IsQuiet) : s.asMapping.Quiet := by
  obtain ⟨labels⟩ := s
  rw [LabelSet.asMapping]
  refine (quiet_collectEntries ?_).bind fun texts => ⟨_, rfl⟩
  rw [Label.allShown_eq_map]
  refine forall_collapse (P := Recorded.Quiet) (Q := Recorded.Quiet) ?_
  intro e he
  obtain ⟨l, hl, rfl⟩ := List.mem_map.mp he
  exact h l hl

namespace Preference

variable {p : Preference} {c : Cluster} {servers : List Server} {primaries : List Address}
  {sel : Selection}

/-- Showing the names and values in the tag sets records nothing, and does not fail. -/
def IsQuiet (p : Preference) : Prop := ∀ t ∈ p.tagSets, t.IsQuiet

/-- Showing such a read preference records nothing. -/
lemma IsQuiet.quiet_shown (h : p.IsQuiet) : p.shown.Quiet := by
  obtain ⟨mode, tagSets⟩ := p
  rw [Preference.shown, LabelSet.allAsMappings_eq_map]
  refine Recorded.Quiet.bind (Recorded.collect_eq_pure fun r hr => ?_) fun sets => ⟨_, rfl⟩
  obtain ⟨t, ht, rfl⟩ := List.mem_map.mp hr
  exact (h t ht).quiet_asMapping

/-- The events of choosing: the warning, if several primaries are reachable and the mode asks for
the primary; then that nobody is eligible, if it comes to nobody. -/
def eventsOf (p : Preference) (servers : List Server) (primaries : List Address)
    (sel : Selection) : List Event :=
  (if p.AsksForPrimary servers ∧ 2 ≤ primaries.length then [.ofPrimaries primaries] else []) ++
    if sel.isNobody then [.noneEligible p] else []

/-- The warning is worded by itself, and nothing comes before it. -/
lemma wordAll_ofPrimaries (primaries : List Address) (events : List Event) :
    (Event.wordAll (.ofPrimaries primaries :: events)).1 =
      (.warning, "Cluster description has " ++ toString primaries.length ++
        " reachable primaries: " ++ commaSeparated (primaries.map Address.endpoint)) ::
        (Event.wordAll events).1 := by
  rw [Event.wordAll]
  rfl

/-- Where the primary is taken, or the nearest, it was asked for. -/
lemma asksForPrimary_of_takesPrimary (h : p.TakesPrimary servers ∨ p.mode = .nearest) :
    p.AsksForPrimary servers := by
  rcases h with (hmode | ⟨hmode, -⟩ | ⟨hmode, hnone⟩) | hmode
  · exact ⟨by rw [hmode]; nofun, by rw [hmode]; nofun⟩
  · exact ⟨by rw [hmode]; nofun, by rw [hmode]; nofun⟩
  · exact ⟨by rw [hmode]; nofun, fun _ => hnone⟩
  · exact ⟨by rw [hmode]; nofun, by rw [hmode]; nofun⟩

/-- **What each mode records**: the warning, once, if it is due and the mode asks for the
primary. -/
theorem select_yields (hc : c.servers = .ok servers)
    (hprimaries : (servers.filter (·.servesAsPrimary)).map (·.address) =
      primaries.map Address.toValue)
    (hwritable : p.AsksForPrimary servers → 2 ≤ primaries.length → ∀ a ∈ primaries, a.IsWritable)
    (hsel : p.comesTo c servers = .ok sel) :
    (p.select c).Yields (.ok sel)
      (if p.AsksForPrimary servers ∧ 2 ≤ primaries.length then [.ofPrimaries primaries]
        else []) := by
  have hresult : (p.select c).result = .ok sel := by
    rw [← choose_result_eq_select, choose_result hc, hsel]
  by_cases hasks : p.AsksForPrimary servers
  · obtain ⟨rest, hselect⟩ := select_of_asksForPrimary hc hasks
    have hyields : (p.select c).Yields rest
        (if 2 ≤ primaries.length then [.ofPrimaries primaries] else []) := by
      rw [hselect]
      exact (Cluster.warnIfSplit_yields hc hprimaries (hwritable hasks)).bind_ofChecked
    rw [hyields.result_eq] at hresult
    subst hresult
    simpa only [hasks, true_and] using hyields
  · obtain ⟨rest, hselect⟩ := select_of_not_asksForPrimary hc hasks
    rw [if_neg fun h => hasks h.1]
    have hyields : (p.select c).Yields rest [] := by
      rw [hselect]
      exact yields_ofChecked rest
    rw [hyields.result_eq] at hresult
    subst hresult
    exact hyields

/-- A warning that cannot be worded is all that comes of a mode that asks for the primary. -/
lemma choose_yields_error (hc : c.servers = .ok servers)
    (hwarn : c.warnIfSplit = Recorded.ofChecked (.error .illFormed))
    (hasks : p.AsksForPrimary servers) : (p.choose c).Yields (.error .illFormed) [] := by
  obtain ⟨rest, hselect⟩ := select_of_asksForPrimary hc hasks
  unfold choose
  rw [hselect, hwarn]
  exact (yields_ofChecked (.error .illFormed)).bind_error.bind_error

/-- **What choosing records.** Among servers that were described with checks, one call records the
warning that names all reachable primaries in order of discovery if there are several and the mode
asks for the primary; then, if the answer is nobody, that nobody is eligible; and nothing else. The
log says the same, whatever the workspace held before. Two things are in the way of that: a port in
the warning that cannot be written, so that choosing fails and nothing is recorded; and what the
names and values in the tag sets record, or fail with, while the last record is worded.

**Proof sketch.** A mode that asks for the primary asks once; the draws are checks, which record
nothing. So the events are those of the warning and of the absence of a server. A draw in a
workspace adds none, and the texts of the log are those of the events, one by one. -/
theorem choose_logs (hcluster : c.Made) (hc : c.servers = .ok servers)
    (hmade : ∀ s ∈ servers, s.Made) :
    ∃ primaries : List Address,
      (servers.filter (·.servesAsPrimary)).map (·.address) = primaries.map Address.toValue ∧
      ((p.AsksForPrimary servers → 2 ≤ primaries.length → ∀ a ∈ primaries, a.IsWritable) →
        ∃ sel, (p.choose c).Yields (.ok sel) (p.eventsOf servers primaries sel) ∧
          (∀ {σ : Type} (choice : Source σ), choice.Answers →
            ∃ run, p.route choice c = .ok run ∧
              ∀ st, ∃ r, (run.run st).1 = .ok r ∧ (r = none ↔ sel.isNobody = true)) ∧
          ∀ w, (Session.finish (Session.choose p c) w).1.log =
            (if p.AsksForPrimary servers ∧ 2 ≤ primaries.length then
              [(.warning, "Cluster description has " ++ toString primaries.length ++
                " reachable primaries: " ++ commaSeparated (primaries.map Address.endpoint))]
            else []) ++
            if sel.isNobody then (Event.wordAll [.noneEligible p]).1 else []) ∧
      (p.AsksForPrimary servers → 2 ≤ primaries.length → (∃ a ∈ primaries, ¬ a.IsWritable) →
        (p.choose c).Yields (.error .illFormed) [] ∧
          ∀ w, (Session.finish (Session.choose p c) w).1.log = []) ∧
      (p.IsQuiet → ∃ text, p.shown = pure text ∧
        Event.wordAll [.noneEligible p] =
          ([(.debug, "No member matches read preference " ++ text)], none)) := by
  have haddress : ∀ s ∈ servers, ∃ a : Address, s.address = a.toValue :=
    fun s hs => (hmade s hs).exists_address
  obtain ⟨primaries, hprimaries⟩ := Cluster.exists_primaries hmade
  refine ⟨primaries, hprimaries, fun hwritable => ?_, fun hasks hseveral hlong => ?_,
    fun hquiet => ?_⟩
  · obtain ⟨sel, hsel, hanswer⟩ : ∃ sel, p.comesTo c servers = .ok sel ∧ sel.Answerable := by
      have hpings : ∀ s ∈ servers, s.HasIntegerPing := fun s hs => (hmade s hs).hasIntegerPing
      refine comesTo_answerable hpings hcluster.latency_nonneg fun hcan => ?_
      rw [Cluster.canWarn_iff_of_addresses hc haddress, not_not] at hcan
      refine ⟨hcan, fun htakes => ?_⟩
      obtain ⟨hseveral, a, ha, hlong⟩ := (Cluster.hasUnwritablePrimary_iff hprimaries).mp hcan
      exact hlong (hwritable (asksForPrimary_of_takesPrimary htakes) hseveral a ha)
    have hyields := choose_yields (select_yields hc hprimaries hwritable hsel)
    refine ⟨sel, hyields, fun choice hchoice => ?_, fun w => ?_⟩
    · refine ⟨sel.consult choice, ?_, hanswer.consult_isNobody hchoice⟩
      unfold route
      rw [hyields.result_eq]
      rfl
    · rw [Session.log_choose hyields]
      by_cases hwarns : p.AsksForPrimary servers ∧ 2 ≤ primaries.length
      · rw [if_pos hwarns, if_pos hwarns, List.singleton_append, wordAll_ofPrimaries]
        cases sel.isNobody <;> rfl
      · rw [if_neg hwarns, if_neg hwarns]
        cases sel.isNobody <;> rfl
  · have hunwritable := (Cluster.hasUnwritablePrimary_iff hprimaries).mpr ⟨hseveral, hlong⟩
    have hwarns := Cluster.warnIfSplit_eq_error hc haddress hunwritable
    have hyields := choose_yields_error hc hwarns hasks
    exact ⟨hyields, Session.log_choose_eq_nil hyields⟩
  · obtain ⟨text, htext⟩ := hquiet.quiet_shown
    refine ⟨text, htext, ?_⟩
    rw [Event.wordAll, Event.text, htext]
    rfl

/-- Two reachable primaries without labels, and the nearest server of a data center is asked for:
the log has the warning, and that nobody is eligible. -/
theorem choose_logs_two_primaries :
    let primaryAt (a : Address) : ServerBuilder :=
      { ServerBuilder.new with address := some a, reachable := true, primary := true }
    let a : Address := ⟨"a", ⟨1, false⟩⟩
    let b : Address := ⟨"b", ⟨2, false⟩⟩
    let servers := [(primaryAt a).toServer a, (primaryAt b).toServer b]
    let c : Cluster := ⟨none, servers.map .server, ⟨15, false⟩, .default⟩
    let p : Preference := ⟨.nearest, [⟨[⟨.text "dc", .text "ny"⟩]⟩]⟩
    c.Made ∧ c.servers = .ok servers ∧ (∀ s ∈ servers, s.Made) ∧ p.IsQuiet ∧
      ∀ w, (Session.finish (Session.choose p c) w).1.log =
        [(.warning, "Cluster description has 2 reachable primaries: a:1, b:2"),
          (.debug,
            "No member matches read preference nearest(tag_sets=[\x7b'dc': 'ny'\x7d])")] := by
  intro primaryAt a b servers c p
  have hnew : Cluster.ofMembers (.ofList (servers.map .server)) (.ofInt 15) .null = .ok c := rfl
  have hcluster : c.Made := .new none hnew
  have hc : c.servers = .ok servers := rfl
  have hmade : ∀ s ∈ servers, s.Made := by
    intro s hs
    rcases List.mem_pair.mp hs with rfl | rfl
    · exact .built (b := primaryAt a) none rfl
    · exact .built (b := primaryAt b) none rfl
  have hquiet : p.IsQuiet := by
    intro t ht l hl
    obtain rfl := List.mem_singleton.mp ht
    obtain rfl := List.mem_singleton.mp hl
    exact ⟨⟨_, rfl⟩, ⟨_, rfl⟩⟩
  refine ⟨hcluster, hc, hmade, hquiet, fun w => ?_⟩
  obtain ⟨primaries, hprimaries, hlogs, -, -⟩ := choose_logs (p := p) hcluster hc hmade
  obtain rfl : primaries = [a, b] := by
    refine List.map_injective_iff.mpr Address.toValue_injective ?_
    exact hprimaries.symm
  have hwritable : ∀ q ∈ [a, b], q.IsWritable := by
    intro q hq
    rcases List.mem_pair.mp hq with rfl | rfl
    · exact Address.isWritable_of_lt (by decide)
    · exact Address.isWritable_of_lt (by decide)
  obtain ⟨sel, hsel, -, hlog⟩ := hlogs fun _ _ => hwritable
  have hwarn : c.CanWarn := by
    have haddress : ∀ s ∈ servers, ∃ a : Address, s.address = a.toValue :=
      fun s hs => (hmade s hs).exists_address
    refine (Cluster.canWarn_iff_of_addresses hc haddress).mpr fun hlong => ?_
    obtain ⟨-, q, hq, hq'⟩ := (Cluster.hasUnwritablePrimary_iff hprimaries).mp hlong
    exact hq' (hwritable q hq)
  have hdraw : p.drawReadable c servers = .ok .nobody := rfl
  have hnobody := hsel.result_eq
  rw [choose_result hc, comesTo_of_nearest_of_canWarn rfl hwarn, hdraw] at hnobody
  cases hnobody
  rw [hlog w, if_pos ⟨by decide, le_refl 2⟩]
  decide +kernel

end Preference

end ReadRouting
