import ReadRouting.Proofs.Results
import ReadRouting.Server.HealthCheck
import ReadRouting.Server.Role

set_option autoImplicit false
set_option relaxedAutoImplicit false

/-!
# What a health check makes of a server

The role that a document reports decides which flags the description gets, and every description
that comes of a health check has a checked address.

## Main definitions

* `ReadRouting.ServerType.IsPrimary` — the roles in which a server serves reads for the primary.
* `ReadRouting.Server.OfRole` — a description has the flags of a role.

## Main results

* `ReadRouting.ServerType.ofDocument_eq_ok` — what a document says if it reports a given role.
* `ReadRouting.Server.ofReply_eq_ok` — what the description of a server that answered is.
-/

namespace ReadRouting

/-! ## The role that a document reports -/

namespace ServerType

variable {d : Value} {t : ServerType}

/-- In this role a server serves reads for the primary. -/
def IsPrimary (t : ServerType) : Prop := t ∈ [primary, standalone, router]

instance (t : ServerType) : Decidable t.IsPrimary := inferInstanceAs (Decidable (t ∈ _))

/-- In this role a server serves reads. -/
def ServesReads (t : ServerType) : Prop := t.IsPrimary ∨ t = secondary

instance (t : ServerType) : Decidable t.ServesReads := inferInstanceAs (Decidable (_ ∨ _))

/-- A member of a replica set that is hidden has no role of its own. -/
lemma ofMember_eq_ok (h : ofMember d = .ok t) : d.holds "hidden" = .ok false ∨ t = .other := by
  obtain ⟨hidden, hhidden, h⟩ := Checked.bind_eq_ok h
  cases hidden with
  | true =>
    cases h
    exact Or.inr rfl
  | false => exact Or.inl hhidden

/-- A document that reports a role says that the command succeeded, unless the role is unknown; and
of a hidden member of a replica set it reports none of those that serve reads. -/
theorem ofDocument_eq_ok (h : ofDocument d = .ok t) (hserves : t.ServesReads) :
    d.holds "ok" = .ok true ∧ (d.holds "setName" = .ok true → d.holds "hidden" = .ok false) := by
  obtain ⟨ok, hok, h⟩ := Checked.bind_eq_ok h
  cases ok with
  | false =>
    cases h
    exact absurd hserves (by decide)
  | true =>
    refine ⟨hok, fun hname => ?_⟩
    obtain ⟨ghost, -, h⟩ := Checked.bind_eq_ok h
    cases ghost with
    | true =>
      cases h
      exact absurd hserves (by decide)
    | false =>
      obtain ⟨name, hname', h⟩ := Checked.bind_eq_ok h
      obtain rfl : true = name := Except.ok.inj (hname.symm.trans hname')
      rcases ofMember_eq_ok h with hhidden | rfl
      · exact hhidden
      · exact absurd hserves (by decide)

end ServerType

/-! ## Setters of a builder -/

namespace ServerBuilder

variable {α : Type} {b b' : ServerBuilder}

/-- What succeeds while a builder is open is what is done there, and the builder is open. -/
lemma whileOpen_eq_ok {x : Checked α} {a : α} (h : b.whileOpen x = .ok a) :
    b.frozen = false ∧ x = .ok a := by
  unfold whileOpen at h
  cases hfrozen : b.frozen with
  | true =>
    rw [hfrozen] at h
    cases h
  | false =>
    rw [hfrozen] at h
    exact ⟨rfl, h⟩

/-- A setter that succeeds has set what its check has let through, and nothing else. -/
lemma set_eq_ok {x : Checked α} {f : α → ServerBuilder}
    (h : (b.whileOpen do return f (← x)) = .ok b') : ∃ a, x = .ok a ∧ b' = f a := by
  obtain ⟨a, ha, h⟩ := Checked.bind_eq_ok (whileOpen_eq_ok h).2
  cases h
  exact ⟨a, ha, rfl⟩

/-- A builder that builds was open, has an address, and is closed afterwards. -/
lemma build_eq_ok {s : Server} (h : b.build = .ok (s, b')) :
    b.frozen = false ∧
      ∃ a, b.address = some a ∧ s = b.toServer a ∧ b' = { b with frozen := true } := by
  obtain ⟨hopen, h⟩ := whileOpen_eq_ok h
  cases haddress : b.address with
  | none =>
    rw [haddress] at h
    cases h
  | some a =>
    rw [haddress] at h
    cases h
    exact ⟨hopen, a, rfl, rfl, rfl⟩

end ServerBuilder

/-! ## Descriptions -/

namespace Server

variable {s : Server} {address document roundTripTimes : Value}

/-- The description has the flags of a role. -/
structure OfRole (s : Server) (t : ServerType) : Prop where
  reachable : s.reachable = .bool (t != .unknown)
  primary : s.primary = .bool (decide t.IsPrimary)
  secondary : s.secondary = .bool (t == .secondary)

/-- A server of a role serves as a primary if the role says so. -/
lemma OfRole.servesAsPrimary {t : ServerType} (h : s.OfRole t) :
    s.servesAsPrimary = decide t.IsPrimary := by
  unfold Server.servesAsPrimary isReachable
  rw [h.reachable, h.primary]
  cases t <;> rfl

/-- A server of a role serves as a secondary if that is its role. -/
lemma OfRole.servesAsSecondary {t : ServerType} (h : s.OfRole t) :
    s.servesAsSecondary = (t == .secondary) := by
  unfold Server.servesAsSecondary isReachable
  rw [h.reachable, h.secondary]
  cases t <;> rfl

/-- A server whose health check failed is described at its address, with no role. -/
lemma unreachable_eq_ok (h : unreachable address = .ok s) :
    (∃ a : Address, s.address = a.toValue) ∧ s.OfRole .unknown := by
  obtain ⟨a, -, h⟩ := Checked.bind_eq_ok h
  cases h
  exact ⟨⟨a, rfl⟩, rfl, rfl, rfl⟩

/-- A server that answered is described at its address, with the role that its document reports.

**Proof sketch.** An answer without success is described as unreachable. Otherwise the description
is what a builder comes to after all its setters have succeeded, each of which leaves alone what
the others have set. -/
theorem ofReply_eq_ok (h : ofReply address document roundTripTimes = .ok s) :
    ∃ t, ServerType.ofDocument document = .ok t ∧
      (∃ a : Address, s.address = a.toValue) ∧ s.OfRole t := by
  obtain ⟨reply, hreply, h⟩ := Checked.bind_eq_ok h
  obtain ⟨t, ht, hreply⟩ := Checked.bind_eq_ok hreply
  cases hreply
  refine ⟨t, ht, ?_⟩
  by_cases hunknown : t = .unknown
  · subst hunknown
    exact unreachable_eq_ok h
  · simp only [if_neg hunknown] at h
    obtain ⟨ping, -, h⟩ := Checked.bind_eq_ok h
    obtain ⟨b, hb, h⟩ := Checked.bind_eq_ok h
    obtain ⟨a, -, rfl⟩ := ServerBuilder.set_eq_ok hb
    obtain ⟨b, hb, h⟩ := Checked.bind_eq_ok h
    obtain ⟨reachable, hreachable, rfl⟩ := ServerBuilder.set_eq_ok hb
    obtain ⟨b, hb, h⟩ := Checked.bind_eq_ok h
    obtain ⟨primary, hprimary, rfl⟩ := ServerBuilder.set_eq_ok hb
    obtain ⟨b, hb, h⟩ := Checked.bind_eq_ok h
    obtain ⟨secondary, hsecondary, rfl⟩ := ServerBuilder.set_eq_ok hb
    obtain ⟨b, hb, h⟩ := Checked.bind_eq_ok h
    obtain ⟨nanos, -, rfl⟩ := ServerBuilder.set_eq_ok hb
    obtain ⟨labels, -, h⟩ := Checked.bind_eq_ok h
    obtain ⟨b, hb, h⟩ := Checked.bind_eq_ok h
    obtain ⟨tags, -, rfl⟩ := ServerBuilder.set_eq_ok hb
    obtain ⟨size, -, h⟩ := Checked.bind_eq_ok h
    obtain ⟨b, hb, h⟩ := Checked.bind_eq_ok h
    obtain ⟨limit, -, rfl⟩ := ServerBuilder.set_eq_ok hb
    cases hreachable
    cases hprimary
    cases hsecondary
    cases h
    refine ⟨⟨a, rfl⟩, ?_, ?_, rfl⟩
    · show Value.bool true = .bool (t != .unknown)
      rw [bne_iff_ne.mpr hunknown]
    · cases t <;> rfl

end Server

end ReadRouting
