import ReadRouting.Proofs.Eligible
import ReadRouting.Proofs.Made
import ReadRouting.Proofs.Wording

set_option autoImplicit false
set_option relaxedAutoImplicit false

/-!
# Choosing always answers

For servers that were described with checks, choosing a server comes to an answer: a server, or
nobody. Their ping times are integers, so that the latency window is found and leaves somebody, and
their addresses are pairs of a host and a port. One thing is not checked: a port may be too long to
be written. If several primaries are reachable, and one of them has such a port, then the warning
about them cannot be worded, and whatever asks for the primary fails.

## Main definitions

* `ReadRouting.Selection.Answerable` — a selection that a source can answer.
* `ReadRouting.Source.Answers` — a source that answers whenever somebody is offered.

## Main results

* `ReadRouting.Server.selectTagged_answers` — a draw by tag sets has somebody to draw.
* `ReadRouting.Preference.choose_answers` — when choosing answers, and when it fails.
-/

namespace ReadRouting

/-! ## The warning about several primaries -/

namespace Cluster

variable {c : Cluster} {servers : List Server}

/-- Whatever the warning records can be worded. -/
lemma warnIfSplit_recordsOnly (p : Preference) (hc : c.servers = .ok servers)
    (hmade : ∀ s ∈ servers, s.Made) : c.warnIfSplit.RecordsOnly p.IsEventOf := by
  have haddress : ∀ s ∈ servers, ∃ a : Address, s.address = a.toValue :=
    fun s hs => (hmade s hs).exists_address
  by_cases hlong : Server.HasUnwritablePrimary servers
  · rw [warnIfSplit_eq_error hc haddress hlong]
    exact Recorded.recordsOnly_ofChecked _
  · rcases warnIfSplit_of_writable hc haddress hlong with hnone | ⟨count, endpoints, hwarn⟩
    · rw [hnone]
      exact Recorded.recordsOnly_pure ()
    · rw [hwarn]
      exact Recorded.recordsOnly_record (Or.inl ⟨count, endpoints, rfl⟩)

end Cluster

/-! ## Selections and sources that answer -/

/-- A source can answer the selection: a draw is offered somebody. -/
def Selection.Answerable : Selection → Prop
  | .draw pool => pool ≠ []
  | _ => True

/-- The selection of the primary asks no source. -/
lemma Selection.answerable_ofPrimary (first : Option Server) :
    (Selection.ofPrimary first).Answerable := by
  cases first <;> trivial

/-- The source answers whenever somebody is offered, with one of those. -/
def Source.Answers {σ : Type} (choice : Source σ) : Prop :=
  ∀ pool ≠ [], ∀ st, ∃ s ∈ pool, ((choice pool).run st).1 = .ok s

/-- The source that always takes the first server answers. -/
lemma Source.answers_byPosition_zero : (Source.byPosition 0).Answers := by
  intro pool hne st
  obtain ⟨s, rest, rfl⟩ := List.exists_cons_of_ne_nil hne
  exact ⟨s, List.mem_cons_self, Source.run_byPosition rfl⟩

/-- A source that answers carries a selection out that it can answer. -/
lemma Selection.Answerable.consult {sel : Selection} (h : sel.Answerable) {σ : Type}
    {choice : Source σ} (hchoice : choice.Answers) (st : σ) :
    ∃ r, ((sel.consult choice).run st).1 = .ok r := by
  cases sel with
  | nobody => exact ⟨none, rfl⟩
  | certain s => exact ⟨some s, rfl⟩
  | draw pool =>
    obtain ⟨s, -, hs⟩ := hchoice pool h st
    exact ⟨some s, Selection.consult_draw_eq_ok_iff.mpr ⟨s, hs, rfl⟩⟩

/-- A draw by tag sets does not fail if the servers that they leave are within windows of their own.
It has somebody to draw if a candidate carries a tag set, and otherwise comes to nobody. -/
theorem Server.selectTagged_answers {window : Int} {candidates : List Server}
    {tagSets : List LabelSet}
    (h : ∀ s ∈ firstMatching candidates tagSets, s.IsWithinOwnWindow window) :
    ∃ sel, selectTagged window candidates tagSets = .ok sel ∧ sel.Answerable ∧
      (sel.isNobody = false ↔ ∃ t ∈ tagSets, ∃ s ∈ candidates, s.Carries t) := by
  by_cases hnone : ∀ t ∈ tagSets, ∀ s ∈ candidates, ¬ s.Carries t
  · refine ⟨.nobody, selectTagged_eq_nobody hnone window, trivial, nofun, ?_⟩
    rintro ⟨t, ht, s, hs, hst⟩
    exact absurd hst (hnone t ht s hs)
  · have hne : firstMatching candidates tagSets ≠ [] := mt firstMatching_eq_nil_iff.mp hnone
    obtain ⟨pool, hpool, hkept⟩ := exists_withinWindow_ne_nil h hne
    refine ⟨.draw pool, ?_, hpool, fun _ => ?_, fun _ => rfl⟩
    · unfold selectTagged selectWithin
      rw [List.isEmpty_eq_false_iff.mpr hne, hkept]
      rfl
    · simpa only [not_forall, not_not, exists_prop] using hnone

/-- A draw by tag sets does not fail, and has somebody to draw: whoever is the fastest. -/
lemma Server.selectTagged_answerable {window : Int} (hwindow : 0 ≤ window)
    {candidates : List Server} (hpings : ∀ s ∈ candidates, s.HasIntegerPing)
    (tagSets : List LabelSet) :
    ∃ sel, selectTagged window candidates tagSets = .ok sel ∧ sel.Answerable := by
  have hwithin : ∀ s ∈ firstMatching candidates tagSets, s.IsWithinOwnWindow window :=
    fun s hs => (hpings s (mem_firstMatching hs).1).isWithinOwnWindow hwindow
  obtain ⟨sel, hsel, hanswer, -⟩ := selectTagged_answers hwithin
  exact ⟨sel, hsel, hanswer⟩

namespace Preference

variable {p : Preference} {c : Cluster} {servers : List Server}

/-- There is nothing to fall back on from somebody. -/
lemma fallBack_of_somebody {sel : Selection} (h : sel.isNobody = false)
    (second : Checked Selection) : fallBack (.ok sel) second = .ok sel := by
  change (if sel.isNobody then second else .ok sel) = .ok sel
  rw [h, if_neg Bool.false_ne_true]

/-- Falling back from an answer to an answer. -/
lemma fallBack_answerable {first second : Checked Selection}
    (hfirst : ∃ sel, first = .ok sel ∧ sel.Answerable)
    (hsecond : ∃ sel, second = .ok sel ∧ sel.Answerable) :
    ∃ sel, fallBack first second = .ok sel ∧ sel.Answerable := by
  obtain ⟨sel, rfl, hsel⟩ := hfirst
  cases hnobody : sel.isNobody with
  | true =>
    have hfall : fallBack (.ok sel) second = second := if_pos hnobody
    rw [hfall]
    exact hsecond
  | false => exact ⟨sel, fallBack_of_somebody hnobody second, hsel⟩

/-- Taking the primary asks no source. -/
lemma takePrimary_answerable (h : c.CanWarn) :
    ∃ sel, takePrimary c servers = .ok sel ∧ sel.Answerable :=
  ⟨_, takePrimary_eq h, Selection.answerable_ofPrimary _⟩

/-- Choosing comes to a selection that a source can answer, unless the warning about several
primaries fails and is asked for.

**Proof sketch.** By mode, if the warning does not fail: each draw has somebody to draw. If it
fails, then there is a primary. Hence the mode that prefers the primary takes it; and the mode that
prefers secondaries asks for the primary only after a draw that came to nobody, so that no
secondary carries any tag set, and takes it too. -/
lemma comesTo_answerable (hpings : ∀ s ∈ servers, s.HasIntegerPing)
    (hwindow : 0 ≤ c.latency.value)
    (hwarn : ¬ c.CanWarn → Server.HasUnwritablePrimary servers ∧
      ¬ (p.TakesPrimary servers ∨ p.mode = .nearest)) :
    ∃ sel, p.comesTo c servers = .ok sel ∧ sel.Answerable := by
  have hsecondary : ∃ sel, p.drawSecondary c servers = .ok sel ∧ sel.Answerable :=
    Server.selectTagged_answerable hwindow (fun s hs => hpings s (List.mem_filter.mp hs).1) _
  have hreadable : ∃ sel, p.drawReadable c servers = .ok sel ∧ sel.Answerable :=
    Server.selectTagged_answerable hwindow
      (fun s hs => hpings s (Cluster.mem_readableOf_iff.mp hs).1) _
  unfold comesTo
  by_cases hcan : c.CanWarn
  · cases p.mode with
    | primary => exact takePrimary_answerable hcan
    | secondary => exact hsecondary
    | primaryPreferred => exact fallBack_answerable (takePrimary_answerable hcan) hsecondary
    | secondaryPreferred => exact fallBack_answerable hsecondary (takePrimary_answerable hcan)
    | nearest =>
      have hresult : c.warnIfSplit.result = .ok () := hcan
      simp only [hresult]
      exact hreadable
  · -- a warning that fails is due, so that there is a primary to take
    obtain ⟨⟨-, s, hs, hprimary, -⟩, htakes⟩ := hwarn hcan
    obtain ⟨htakes, hnearest⟩ := not_or.mp htakes
    cases hmode : p.mode with
    | primary => exact absurd (Or.inl hmode) htakes
    | secondary => exact hsecondary
    | primaryPreferred => exact absurd (Or.inr (Or.inl ⟨hmode, s, hs, hprimary⟩)) htakes
    | secondaryPreferred =>
      obtain ⟨sel, hsel, hanswer⟩ := hsecondary
      cases hnobody : sel.isNobody with
      | true =>
        refine absurd (Or.inr (Or.inr ⟨hmode, fun t ht s hs hsec => ?_⟩)) htakes
        have hnone := Server.not_carries_of_selectTagged hsel hnobody
        exact hnone t ht s (List.mem_filter.mpr ⟨hs, hsec⟩)
      | false =>
        refine ⟨sel, ?_, hanswer⟩
        rw [hsel]
        exact fallBack_of_somebody hnobody _
    | nearest => exact absurd hmode hnearest

/-- **Choosing always answers.** Among servers that were described with checks, choosing comes to a
server or to nobody with every source that answers whenever somebody is offered, and what is
recorded on the way can be worded: always the warning about several primaries, and that nobody is
eligible whenever the names and values in the tag sets can be shown. What can be in the way is the
warning about several primaries, exactly if one of them has a port that is too long to be written
and the primary is asked for. -/
theorem choose_answers (hcluster : c.Made) (hc : c.servers = .ok servers)
    (hmade : ∀ s ∈ servers, s.Made) :
    (¬ (Server.HasUnwritablePrimary servers ∧ (p.TakesPrimary servers ∨ p.mode = .nearest)) →
      ∀ {σ : Type} (choice : Source σ), choice.Answers →
        ∃ run, p.route choice c = .ok run ∧ ∀ st, ∃ r, (run.run st).1 = .ok r) ∧
    (Server.HasUnwritablePrimary servers ∧ (p.TakesPrimary servers ∨ p.mode = .nearest) →
      ∀ {m : Type → Type} [Monad m] (choice : List Server → m Server),
        p.route choice c = .error .illFormed) ∧
    (∀ e ∈ (p.choose c).outcome.2, (e = .noneEligible p → p.CanBeShown) → e.text.Succeeds) := by
  have haddress : ∀ s ∈ servers, ∃ a : Address, s.address = a.toValue :=
    fun s hs => (hmade s hs).exists_address
  refine ⟨fun hwritable σ choice hchoice => ?_, fun ⟨hlong, hasks⟩ m _ choice => ?_,
    fun e he hshown => ?_⟩
  · obtain ⟨sel, hsel, hanswer⟩ : ∃ sel, p.comesTo c servers = .ok sel ∧ sel.Answerable := by
      have hpings : ∀ s ∈ servers, s.HasIntegerPing := fun s hs => (hmade s hs).hasIntegerPing
      refine comesTo_answerable hpings hcluster.latency_nonneg fun hcan => ?_
      rw [Cluster.canWarn_iff_of_addresses hc haddress, not_not] at hcan
      exact ⟨hcan, fun hasks => hwritable ⟨hcan, hasks⟩⟩
    refine ⟨sel.consult choice, ?_, hanswer.consult hchoice⟩
    unfold route
    rw [choose_result hc, hsel]
    rfl
  · apply route_eq_error
    rw [choose_result hc]
    apply comesTo_eq_error _ hasks
    rw [Cluster.warnIfSplit_eq_error hc haddress hlong]
    rfl
  · have hrecords := choose_recordsOnly hc (Cluster.warnIfSplit_recordsOnly p hc hmade)
    exact succeeds_text (hrecords [] nofun e he) hshown

/-- Two reachable primaries, one of them with a port that is too long to be written: the mode that
takes the primary fails, the mode that takes a secondary answers, and can tell of its tag set, which
has two values of one name, that nobody matches it. -/
theorem choose_answers_long_port :
    let primaryAt (port : Int) : ServerBuilder := { ServerBuilder.new with
      address := some ⟨"localhost", ⟨port, false⟩⟩
      reachable := true
      primary := true }
    let long : Int := (Nat.pow 10 Text.maxDigits : Nat)
    let servers := [(primaryAt 1).toServer ⟨"localhost", ⟨1, false⟩⟩,
      (primaryAt long).toServer ⟨"localhost", ⟨long, false⟩⟩]
    let c : Cluster := ⟨none, servers.map .server, ⟨15, false⟩, .default⟩
    let p : Preference := ⟨.secondary, [⟨[⟨.text "a", .text "1"⟩, ⟨.text "a", .text "2"⟩]⟩]⟩
    c.Made ∧ c.servers = .ok servers ∧ (∀ s ∈ servers, s.Made) ∧
      Server.HasUnwritablePrimary servers ∧
      (∀ {m : Type → Type} [Monad m] (choice : List Server → m Server),
        Preference.route ⟨.primary, []⟩ choice c = .error .illFormed) ∧
      (∀ {σ : Type} (choice : Source σ), choice.Answers →
        ∃ run, p.route choice c = .ok run ∧ ∀ st, ∃ r, (run.run st).1 = .ok r) ∧
      ∀ e ∈ (p.choose c).outcome.2, e.text.Succeeds := by
  intro primaryAt long servers c p
  have hnew : Cluster.ofMembers (.ofList (servers.map .server)) (.ofInt 15) .null = .ok c := rfl
  have hcluster : c.Made := .new none hnew
  have hc : c.servers = .ok servers := rfl
  have hmade : ∀ s ∈ servers, s.Made := by
    intro s hs
    rcases List.mem_pair.mp hs with rfl | rfl
    · exact .built (b := primaryAt 1) none rfl
    · exact .built (b := primaryAt long) none rfl
  have hlong : Server.HasUnwritablePrimary servers := by
    refine ⟨le_refl 2, servers[1], List.getElem_mem _, rfl, ⟨"localhost", ⟨long, false⟩⟩, rfl, ?_⟩
    unfold Address.IsWritable
    rw [show long.natAbs = Nat.pow 10 Text.maxDigits from Int.natAbs_natCast _]
    exact lt_irrefl _
  have hshown : p.CanBeShown := by
    intro t ht l hl
    obtain rfl := List.mem_singleton.mp ht
    rcases List.mem_pair.mp hl with rfl | rfl
    · exact ⟨Recorded.succeeds_pure _, Recorded.succeeds_pure _⟩
    · exact ⟨Recorded.succeeds_pure _, Recorded.succeeds_pure _⟩
  refine ⟨hcluster, hc, hmade, hlong, ?_, ?_, ?_⟩
  · exact (choose_answers hcluster hc hmade).2.1 ⟨hlong, Or.inl (Or.inl rfl)⟩
  · refine (choose_answers hcluster hc hmade).1 ?_
    rintro ⟨-, (hmode | ⟨hmode, -⟩ | ⟨hmode, -⟩) | hmode⟩ <;> cases hmode
  · exact fun e he => (choose_answers hcluster hc hmade).2.2 e he fun _ => hshown

end Preference

end ReadRouting
