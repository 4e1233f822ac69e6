import ReadRouting.Preference.Choose
import ReadRouting.Proofs.Warning

set_option autoImplicit false
set_option relaxedAutoImplicit false

/-!
# What choosing comes to

Choosing a server records events on the way, and may fail in three places that have nothing to do
with each other: the warning about several primaries, the draw among the secondaries, and the draw
among all servers that can serve reads. Here its result is written as a function of these three.

## Main definitions

* `ReadRouting.Preference.drawSecondary`, `ReadRouting.Preference.drawReadable` — the two draws.
* `ReadRouting.Preference.comesTo` — the result of choosing, in terms of the three.

## Main results

* `ReadRouting.Preference.takePrimary_eq`, `ReadRouting.Preference.comesTo_of_nearest_of_canWarn` —
  the warning about several primaries matters only if it fails.
* `ReadRouting.Preference.choose_result` — choosing has that result.
-/

namespace ReadRouting

namespace Cluster

variable {c : Cluster} {servers : List Server}

/-- The secondaries are those servers that serve as one. -/
lemma secondaries_eq (hc : c.servers = .ok servers) :
    c.secondaries = .ok (servers.filter (·.servesAsSecondary)) := by
  unfold secondaries
  rw [hc]
  rfl

/-- Asking for the primary is warning of several ones, and then taking the first. -/
lemma primary?_eq (hc : c.servers = .ok servers) :
    c.primary? = c.warnIfSplit >>= fun _ => Recorded.ofChecked (.ok (firstPrimary? servers)) := by
  unfold primary?
  rw [hc]
  rfl

end Cluster

namespace Preference

variable (p : Preference) (c : Cluster) (servers : List Server)

/-- The draw among the reachable secondaries. -/
def drawSecondary : Checked Selection :=
  Server.selectTagged c.latency.value (servers.filter (·.servesAsSecondary)) p.effectiveTagSets

/-- The draw among the primary that is used and the reachable secondaries. -/
def drawReadable : Checked Selection :=
  Server.selectTagged c.latency.value (Cluster.readableOf servers) p.effectiveTagSets

/-- The primary that is used, after the warning about several ones. -/
def takePrimary : Checked Selection :=
  c.warnIfSplit.result >>= fun _ => .ok (.ofPrimary (Cluster.firstPrimary? servers))

/-- A selection, or another one if it comes to nobody. -/
def fallBack (first second : Checked Selection) : Checked Selection :=
  first >>= fun s => if s.isNobody then second else .ok s

/-- What choosing among given servers comes to. -/
def comesTo : Checked Selection :=
  match p.mode with
  | .primary => takePrimary c servers
  | .secondary => p.drawSecondary c servers
  | .primaryPreferred => fallBack (takePrimary c servers) (p.drawSecondary c servers)
  | .secondaryPreferred => fallBack (p.drawSecondary c servers) (takePrimary c servers)
  | .nearest => c.warnIfSplit.result >>= fun _ => p.drawReadable c servers

variable {p c servers}

/-- Taking the primary fails only if the warning does. -/
theorem takePrimary_eq (hwarn : c.CanWarn) :
    takePrimary c servers = .ok (.ofPrimary (Cluster.firstPrimary? servers)) := by
  have hresult : c.warnIfSplit.result = .ok () := hwarn
  rw [takePrimary, hresult]
  rfl

/-- The mode that takes the nearest draws among all servers that can serve reads, after the warning
about several primaries. -/
lemma comesTo_of_nearest (hmode : p.mode = .nearest) :
    p.comesTo c servers = c.warnIfSplit.result >>= fun _ => p.drawReadable c servers := by
  rw [comesTo, hmode]

/-- If the warning does not fail, only the draw is left. -/
theorem comesTo_of_nearest_of_canWarn (hmode : p.mode = .nearest) (hwarn : c.CanWarn) :
    p.comesTo c servers = p.drawReadable c servers := by
  have hresult : c.warnIfSplit.result = .ok () := hwarn
  rw [comesTo_of_nearest hmode, hresult]
  rfl

/-- That nobody is eligible is recorded after the selection. -/
lemma choose_result_eq_select : (p.choose c).result = (p.select c).result := by
  unfold choose Recorded.result Recorded.outcome
  simp only [bind, ExceptT.bind, ExceptT.mk, ExceptT.bindCont, StateT.bind, ExceptT.run, StateT.run]
  rcases p.select c [] with ⟨_ | s, es⟩
  · rfl
  · cases hs : s.isNobody <;> simp only [hs] <;> rfl

/-- Falling back on a check. -/
lemma result_orElse_ofChecked (first : Recorded Selection) (second : Checked Selection) :
    (orElse first (Recorded.ofChecked second)).result = fallBack first.result second := by
  unfold orElse fallBack
  rw [← Recorded.result_bind_ofChecked]
  congr 2
  funext s
  cases s.isNobody <;> rfl

/-- Falling back on a check's result starts with nothing recorded. -/
lemma result_ofChecked_orElse (first : Checked Selection) (second : Recorded Selection) :
    (orElse (Recorded.ofChecked first) second).result = fallBack first second.result := by
  unfold orElse fallBack
  rw [Recorded.result_ofChecked_bind]
  congr 1
  funext s
  cases s.isNobody <;> rfl

variable (hc : c.servers = .ok servers)
include hc

/-- The selection among the secondaries records nothing. -/
lemma selectSecondary_eq :
    p.selectSecondary c = Recorded.ofChecked (p.drawSecondary c servers) := by
  unfold selectSecondary
  rw [Cluster.secondaries_eq hc]
  rfl

/-- The selection of the primary. -/
lemma selectPrimary_eq :
    selectPrimary c = c.warnIfSplit >>= fun _ =>
      Recorded.ofChecked (.ok (.ofPrimary (Cluster.firstPrimary? servers))) := by
  unfold selectPrimary
  rw [Cluster.primary?_eq hc, bind_assoc]
  rfl

/-- The selection among the primary and the secondaries. -/
lemma selectReadable_eq :
    p.selectReadable c =
      c.warnIfSplit >>= fun _ => Recorded.ofChecked (p.drawReadable c servers) := by
  unfold selectReadable Cluster.readable
  rw [Cluster.primary?_eq hc, hc]
  simp only [bind_assoc]
  rfl

/-- Choosing comes to what its three parts come to. -/
theorem choose_result : (p.choose c).result = p.comesTo c servers := by
  rw [choose_result_eq_select]
  unfold select comesTo
  cases p.mode with
  | primary =>
    rw [selectPrimary_eq hc, Recorded.result_bind_ofChecked]
    rfl
  | secondary => rw [selectSecondary_eq hc, Recorded.result_ofChecked]
  | primaryPreferred =>
    rw [selectSecondary_eq hc, result_orElse_ofChecked, selectPrimary_eq hc,
      Recorded.result_bind_ofChecked]
    rfl
  | secondaryPreferred =>
    rw [selectSecondary_eq hc, result_ofChecked_orElse, selectPrimary_eq hc,
      Recorded.result_bind_ofChecked]
    rfl
  | nearest => rw [selectReadable_eq hc, Recorded.result_bind_ofChecked]

end Preference

end ReadRouting
