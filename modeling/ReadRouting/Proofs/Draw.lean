import ReadRouting.Proofs.Outcome
import ReadRouting.Workspace

set_option autoImplicit false
set_option relaxedAutoImplicit false

/-!
# Draws from any source

A selection tells what is offered to a draw, and leaves the draw to a source of randomness. Here
the source is arbitrary: whatever takes a pool of servers to one of them, in any monad, so that it
may keep a state, fail, or count how often it is asked. An equation that holds in every monad
says how often the source is asked, and with which pools.

## Main definitions

* `ReadRouting.Selection.consult` — carries a selection out with a source.
* `ReadRouting.Preference.route` — where a read goes, by an arbitrary source.
* `ReadRouting.Session.ask` — the source that a workspace keeps count of.
* `ReadRouting.Source`, `ReadRouting.Source.Faithful` — sources with a state that may fail, and
  those that answer with a server that they were offered.
* `ReadRouting.Source.byPosition` — the source that takes the server at a given position.
* `ReadRouting.Selection.All` — every server that a selection may end with has a property.

## Main results

* `ReadRouting.Session.choose_eq_consult` — in a workspace the choice is made by consulting the
  source that the workspace keeps count of.
* `ReadRouting.Selection.consult_draw_eq_ok_iff` — a draw ends with the answer of the source.
* `ReadRouting.Selection.All.of_consult` — a faithful source ends with a server of the selection.
-/

namespace ReadRouting

namespace Selection

/-- Carries a selection out: only a draw consults the source, once, and with its pool. -/
def consult {m : Type → Type} [Monad m] (choice : List Server → m Server) :
    Selection → m (Option Server)
  | .nobody => pure none
  | .certain s => pure (some s)
  | .draw pool => some <$> choice pool

/-- Every server that the selection may end with has a property. -/
def All (P : Server → Prop) : Selection → Prop
  | .nobody => True
  | .certain s => P s
  | .draw pool => ∀ s ∈ pool, P s

/-- A weaker property holds of every server of a selection too. -/
lemma All.imp {P Q : Server → Prop} (h : ∀ s, P s → Q s) {sel : Selection} (hsel : sel.All P) :
    sel.All Q := by
  cases sel with
  | nobody => trivial
  | certain s => exact h s hsel
  | draw pool => exact fun s hs => h s (hsel s hs)

end Selection

/-- Where a read goes when pools are chosen from by a given source, if the selection succeeds. -/
def Preference.route {m : Type → Type} [Monad m] (p : Preference)
    (choice : List Server → m Server) (c : Cluster) : Checked (m (Option Server)) :=
  (p.choose c).result.map (Selection.consult choice)

namespace Session

/-- Asks a scripted source, noting the pool that it is offered and that it has answered. -/
def ask (r : RandomSource) (pool : List Server) : Session Server := do
  notePool r pool
  let earlier ← drawsOf r
  let s ← ofChecked (r.draw earlier pool)
  countDraw r earlier
  return s

/-- Settling a selection is carrying it out with the source that the workspace keeps count of. -/
lemma settle_eq_consult (r : RandomSource) (s : Selection) : settle r s = s.consult (ask r) := by
  cases s with
  | nobody => rfl
  | certain s => rfl
  | draw pool =>
    unfold settle Selection.consult ask Selection.resolve
    simp only [map_bind, map_pure]
    congr 1
    funext _
    congr 1
    funext earlier
    cases r.draw earlier pool <;> rfl

/-- The choice in a workspace is the selection, carried out with the cluster's own source. -/
theorem choose_eq_consult (p : Preference) (c : Cluster) :
    Session.choose p c = ofRecorded (p.choose c) >>= Selection.consult (ask c.source) := by
  unfold Session.choose
  congr 1
  funext s
  exact settle_eq_consult c.source s

end Session

/-- A source of randomness with a state of type `σ`, which may fail. -/
abbrev Source (σ : Type) := List Server → ExceptT Fault (StateM σ) Server

namespace Source

variable {σ : Type}

/-- The source answers, if it does, with one of the servers that it is offered. -/
def Faithful (choice : Source σ) : Prop :=
  ∀ pool st s, ((choice pool).run st).1 = .ok s → s ∈ pool

/-- The source that takes the server at a given position, if there are so many. -/
def byPosition (i : Nat) : Source Unit := fun pool =>
  match pool[i]? with
  | some s => pure s
  | none => throw .outOfRange

/-- The source that goes by position answers if there are so many servers. -/
lemma run_byPosition {i : Nat} {pool : List Server} {s : Server} (h : pool[i]? = some s) :
    ((Source.byPosition i pool).run ()).1 = .ok s := by
  unfold Source.byPosition
  rw [h]
  rfl

/-- The source that goes by position answers with a server that it is offered. -/
lemma faithful_byPosition (i : Nat) : (Source.byPosition i).Faithful := by
  intro pool st s h
  unfold Source.byPosition at h
  cases hget : pool[i]? with
  | none =>
    rw [hget] at h
    cases h
  | some t =>
    rw [hget] at h
    cases h
    exact List.mem_of_getElem? hget

end Source

/-- A draw ends with the answer of the source. -/
theorem Selection.consult_draw_eq_ok_iff {σ : Type} {choice : Source σ} {pool : List Server}
    {st : σ} {r : Option Server} :
    (((Selection.draw pool).consult choice).run st).1 = .ok r ↔
      ∃ s, ((choice pool).run st).1 = .ok s ∧ r = some s := by
  rw [Selection.consult, ExceptT.run_map]
  change Except.map some ((choice pool).run st).1 = .ok r ↔ _
  cases ((choice pool).run st).1 with
  | error e => exact ⟨nofun, nofun⟩
  | ok s =>
    constructor
    · intro h
      exact ⟨s, rfl, (Except.ok.inj h).symm⟩
    · rintro ⟨t, ht, rfl⟩
      cases ht
      rfl

/-- What a faithful source ends with is a server of the selection. -/
theorem Selection.All.of_consult {σ : Type} {P : Server → Prop} {sel : Selection}
    (hsel : sel.All P) {choice : Source σ} (hchoice : choice.Faithful) {st : σ} {s : Server}
    (h : ((sel.consult choice).run st).1 = .ok (some s)) : P s := by
  cases sel with
  | nobody => cases h
  | certain t =>
    cases h
    exact hsel
  | draw pool =>
    obtain ⟨t, ht, hst⟩ := Selection.consult_draw_eq_ok_iff.mp h
    cases hst
    exact hsel s (hchoice pool st s ht)

end ReadRouting
