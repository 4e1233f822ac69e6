import ReadRouting.Cluster.Snapshot
import ReadRouting.Proofs.Checks
import ReadRouting.Proofs.HealthCheck
import ReadRouting.Proofs.Window

set_option autoImplicit false
set_option relaxedAutoImplicit false

/-!
# What was made with checks

A server description is made by a builder, from the reply to a health check, or for a server whose
health check failed; and a snapshot with a latency window that was checked, or from another
snapshot. Whatever was made in one of these ways is well-formed, and nothing else is said here of
how it came about.

## Main definitions

* `ReadRouting.Server.Made` — a description that was made with checks.
* `ReadRouting.Cluster.Made` — a snapshot of any members.

## Main results

* `ReadRouting.Server.Made.exists_toServer` — such a description has the fields of a builder.
* `ReadRouting.Cluster.Made.latency_nonneg` — the latency window of a snapshot is not negative.
-/

namespace ReadRouting

namespace Server

/-- A description that was made with checks: by a builder, of a server that answered a health
check, or of one that did not. Which object it is does not matter. -/
inductive Made : Server → Prop
  | built {b b' : ServerBuilder} {s : Server} (ident : Ident) (h : b.build = .ok (s, b')) :
    Made { s with ident := ident }
  | answered {address document roundTripTimes : Value} {s : Server} (ident : Ident)
    (h : ofReply address document roundTripTimes = .ok s) : Made { s with ident := ident }
  | unanswered {address : Value} {s : Server} (ident : Ident)
    (h : unreachable address = .ok s) : Made { s with ident := ident }

variable {s : Server}

/-- A description that was made with checks has the fields of a builder, and an address. -/
theorem Made.exists_toServer (h : s.Made) :
    ∃ (b : ServerBuilder) (a : Address) (ident : Ident),
      s = { b.toServer a with ident := ident } := by
  cases h with
  | built ident h =>
    obtain ⟨-, a, -, rfl, -⟩ := ServerBuilder.build_eq_ok h
    exact ⟨_, a, ident, rfl⟩
  | answered ident h =>
    obtain ⟨reply, -, h⟩ := Checked.bind_eq_ok h
    split at h
    · obtain ⟨a, -, h⟩ := Checked.bind_eq_ok h
      cases h
      exact ⟨_, a, ident, rfl⟩
    · -- what the setters were given does not matter here, only that the last step builds
      iterate 10 obtain ⟨_, -, h⟩ := Checked.bind_eq_ok h
      obtain ⟨⟨_, _⟩, hbuild, h⟩ := Checked.bind_eq_ok h
      cases h
      obtain ⟨-, a, -, rfl, -⟩ := ServerBuilder.build_eq_ok hbuild
      exact ⟨_, a, ident, rfl⟩
  | unanswered ident h =>
    obtain ⟨a, -, h⟩ := Checked.bind_eq_ok h
    cases h
    exact ⟨_, a, ident, rfl⟩

/-- The address of such a description is a pair of a host and a port. -/
lemma Made.exists_address (h : s.Made) : ∃ a : Address, s.address = a.toValue := by
  obtain ⟨b, a, ident, rfl⟩ := h.exists_toServer
  exact ⟨a, rfl⟩

/-- The ping time of such a description is an integer. -/
lemma Made.hasIntegerPing (h : s.Made) : s.HasIntegerPing := by
  obtain ⟨b, a, ident, rfl⟩ := h.exists_toServer
  rfl

end Server

/-- The latency window of settings is not negative, be it given or the usual one. -/
lemma Settings.latency_nonneg_of_ofOptions {latency source : Value} {s : Settings}
    (h : ofOptions latency source = .ok s) : 0 ≤ s.latency.value := by
  obtain ⟨window, hwindow, h⟩ := Checked.bind_eq_ok h
  obtain ⟨given, -, h⟩ := Checked.bind_eq_ok h
  cases h
  cases window with
  | none => exact Int.natCast_nonneg 15
  | some n => exact Checked.nonneg_of_nonNegativeOrNull hwindow

namespace Cluster

variable {c : Cluster}

/-- A snapshot: a new one with a checked latency window, one by the settings of a client or of
another snapshot, or one with the latest description of a server. -/
inductive Made : Cluster → Prop
  | new {members latency source : Value} {c : Cluster} (ident : Ident)
    (h : ofMembers members latency source = .ok c) : Made { c with ident := ident }
  | configured {latency source members : Value} {s : Settings} {c : Cluster} (ident object : Ident)
    (hs : Settings.ofOptions latency source = .ok s)
    (h : ofSettings (.settings { s with ident := object }) members = .ok c) :
    Made { c with ident := ident }
  | sameSettings {members : Value} {c d : Cluster} (ident : Ident) (hd : Made d)
    (h : ofSettings (.cluster d) members = .ok c) : Made { c with ident := ident }
  | updated {new : Value} {c d : Cluster} (ident : Ident) (hd : Made d)
    (h : d.update new = .ok c) : Made { c with ident := ident }

/-- The latency window of a snapshot is not negative. -/
theorem Made.latency_nonneg (h : c.Made) : 0 ≤ c.latency.value := by
  induction h with
  | new ident h =>
    obtain ⟨items, -, h⟩ := Checked.bind_eq_ok h
    obtain ⟨window, hwindow, h⟩ := Checked.bind_eq_ok h
    obtain ⟨given, -, h⟩ := Checked.bind_eq_ok h
    cases h
    exact Checked.nonneg_of_nonNegative hwindow
  | configured ident object hs h =>
    obtain ⟨items, -, h⟩ := Checked.bind_eq_ok h
    cases h
    exact Settings.latency_nonneg_of_ofOptions hs
  | sameSettings ident hd h ih =>
    obtain ⟨items, -, h⟩ := Checked.bind_eq_ok h
    cases h
    exact ih
  | updated ident hd h ih =>
    obtain ⟨members, -, h⟩ := Checked.bind_eq_ok h
    cases h
    exact ih

end Cluster

end ReadRouting
