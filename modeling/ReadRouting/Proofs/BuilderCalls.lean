import ReadRouting.Proofs.Checks
import ReadRouting.Proofs.HealthCheck
import ReadRouting.Workspace

set_option autoImplicit false
set_option relaxedAutoImplicit false

/-!
# Calls of a builder

A builder of server descriptions under a name of a workspace, and any sequence of calls of its
setters and of `build`, with any values. The setters differ in their fields only, so a call is given
by the field and the value.

What becomes of the builder depends on the calls that succeed alone: a call that fails leaves the
workspace as it was. Each field is what it was last set to, and after the first description has been
built, everything is refused.

## Main definitions

* `ReadRouting.BuilderField` — the fields of a builder, each with its check.
* `ReadRouting.BuilderCall`, `ReadRouting.BuilderCall.perform` — a call, and what it does in a
  workspace.
* `ReadRouting.Workspace.afterCalls`, `ReadRouting.BuilderCall.succeeding` — the workspace after
  several calls, and those of them that succeed.
* `ReadRouting.BuilderField.lastSet` — what a field was last set to.
* `ReadRouting.ServerBuilder.Reflects` — a builder is as the calls that succeeded have left it.
* `ReadRouting.Server.BuiltBy` — a description is as the calls that succeeded have it.

## Main results

* `ReadRouting.ServerBuilder.Reflects.step` — what one call that succeeds preserves.
* `ReadRouting.Workspace.Tracks.afterCalls` — what any sequence of calls preserves.
* `ReadRouting.BuilderCall.sequence_builds_once` — what a new builder does after any calls.
-/

namespace ReadRouting

/-! ## Fields -/

/-- The fields that a builder keeps. -/
inductive BuilderField
  | address
  | reachable
  | primary
  | secondary
  | ping
  | labels
  | maxDocumentSize
  deriving DecidableEq

namespace BuilderField

/-- What a field holds. -/
def Content : BuilderField → Type
  | address => Address
  | reachable | primary | secondary => Bool
  | ping | maxDocumentSize => Integer
  | labels => LabelSet

/-- The check of a value for a field. -/
def check : (field : BuilderField) → Value → Checked field.Content
  | address => Checked.address (.text "address")
  | reachable => Checked.boolean (.text "reachable")
  | primary => Checked.boolean (.text "primary")
  | secondary => Checked.boolean (.text "secondary")
  | ping => Checked.nonNegative (.text "average_ping_time")
  | labels => Checked.tagSet (.text "labels")
  | maxDocumentSize => Checked.positive (.text "max_document_size")

/-- What a field of a builder holds; the address may be missing. -/
def get : (field : BuilderField) → ServerBuilder → Option field.Content
  | address, b => b.address
  | reachable, b => some b.reachable
  | primary, b => some b.primary
  | secondary, b => some b.secondary
  | ping, b => some b.ping
  | labels, b => some b.labels
  | maxDocumentSize, b => some b.maxDocumentSize

/-- A builder with one field replaced. -/
def put : (field : BuilderField) → field.Content → ServerBuilder → ServerBuilder
  | address, a, b => { b with address := some a }
  | reachable, r, b => { b with reachable := r }
  | primary, p, b => { b with primary := p }
  | secondary, s, b => { b with secondary := s }
  | ping, n, b => { b with ping := n }
  | labels, l, b => { b with labels := l }
  | maxDocumentSize, n, b => { b with maxDocumentSize := n }

/-- The setter of a field. -/
def set : BuilderField → ServerBuilder → Value → Checked ServerBuilder
  | address => ServerBuilder.setAddress
  | reachable => ServerBuilder.setReachable
  | primary => ServerBuilder.setPrimary
  | secondary => ServerBuilder.setSecondary
  | ping => ServerBuilder.setPing
  | labels => ServerBuilder.setLabels
  | maxDocumentSize => ServerBuilder.setMaxDocumentSize

variable {field other : BuilderField} {b : ServerBuilder}

/-- Every setter asks first whether the builder is open, then checks the value, and then replaces
its field. -/
lemma set_eq (field : BuilderField) (b : ServerBuilder) (v : Value) :
    field.set b v = b.whileOpen do return field.put (← field.check v) b := by
  cases field <;> rfl

/-- A field holds what it was replaced by. -/
lemma get_put_self (x : field.Content) : field.get (field.put x b) = some x := by
  cases field <;> rfl

/-- Replacing one field leaves the others alone. -/
lemma get_put_of_ne (h : field ≠ other) (x : field.Content) :
    other.get (field.put x b) = other.get b := by
  cases field <;> cases other <;> first | rfl | exact absurd rfl h

/-- Replacing a field opens and closes nothing. -/
@[simp] lemma frozen_put (x : field.Content) : (field.put x b).frozen = b.frozen := by
  cases field <;> rfl

/-- A builder with one field replaced is the same object. -/
@[simp] lemma ident_put (x : field.Content) : (field.put x b).ident = b.ident := by
  cases field <;> rfl

/-- Closing a builder leaves its fields alone. -/
lemma get_frozen (field : BuilderField) (b : ServerBuilder) (frozen : Bool) :
    field.get { b with frozen := frozen } = field.get b := by
  cases field <;> rfl

end BuilderField

/-! ## Calls -/

/-- A call of a builder: of one of its setters with a value, or of `build`. -/
inductive BuilderCall
  | set (field : BuilderField) (v : Value)
  | build

namespace BuilderCall

/-- What a call makes of a builder: the description, if it is one that builds, and the builder
afterwards. -/
def on (b : ServerBuilder) : BuilderCall → Checked (Option Server × ServerBuilder)
  | set field v => do return (none, ← field.set b v)
  | build => do
    let (s, after) ← b.build
    return (some s, after)

/-- A call of the builder under a name. -/
def perform (name : String) (call : BuilderCall) : Session (Option Server) := do
  let v := (← Session.lookup? name).getD .null
  match call with
  | set field x => do
    let _ ← Session.configure v fun b => field.set b x
    return none
  | build => do return some (← Session.build v)

/-- Those of several calls that succeed, in order. -/
def succeeding (name : String) : Workspace → List BuilderCall → List BuilderCall
  | _, [] => []
  | w, call :: rest =>
    match (call.perform name).run.run w with
    | (.ok _, after) => call :: succeeding name after rest
    | (.error _, after) => succeeding name after rest

end BuilderCall

namespace Workspace

/-- The workspace after several calls, whether they succeed or fail. -/
def afterCalls (name : String) (w : Workspace) (calls : List BuilderCall) : Workspace :=
  calls.foldl (fun w call => ((call.perform name).run.run w).2) w

/-- A name of the workspace stands for the builder. -/
def Holds (w : Workspace) (name : String) (b : ServerBuilder) : Prop :=
  w.bindings.lookup name = some (.builder b)

/-- The workspace with a builder brought up to date under all names. -/
def withBuilder (w : Workspace) (b : ServerBuilder) : Workspace :=
  { w with
    bindings := w.bindings.map fun e =>
      (e.1, ((e.2.mapObjects (Value.renewed (.builder b))).run ()).1) }

variable {w : Workspace} {name : String} {b b' : ServerBuilder}

/-- What stands under a name after all values have been changed. -/
lemma lookup_map_snd (f : Value → Value) (bindings : List (String × Value)) (name : String) :
    (bindings.map fun e => (e.1, f e.2)).lookup name = (bindings.lookup name).map f := by
  induction bindings with
  | nil => rfl
  | cons e rest ih =>
    obtain ⟨key, v⟩ := e
    rw [List.map_cons, List.lookup_cons, List.lookup_cons, ih]
    cases name == key <;> rfl

/-- An object takes the place of its earlier state. -/
lemma Holds.withBuilder (h : w.Holds name b) (hident : b'.ident = b.ident)
    (hnumbered : b.ident.isSome) : (w.withBuilder b').Holds name b' := by
  have hsame : Ident.same b'.ident b.ident = true := by
    rw [hident, Ident.same, hnumbered, Bool.true_and, beq_iff_eq]
  have hrenewed : (((Value.builder b).mapObjects (Value.renewed (.builder b'))).run ()).1 =
      .builder b' := by
    -- whatever was renewed in its labels before, the builder as a whole is replaced
    obtain ⟨ident, frozen, address, reachable, primary, secondary, ping, labels, size⟩ := b
    exact if_pos hsame
  have hlookup := lookup_map_snd
    (fun v => ((v.mapObjects (Value.renewed (.builder b'))).run ()).1) w.bindings name
  rw [show w.bindings.lookup name = some (.builder b) from h, Option.map_some, hrenewed] at hlookup
  exact hlookup

end Workspace

namespace BuilderCall

variable {w : Workspace} {name : String} {b b' : ServerBuilder} {call : BuilderCall}
  {r : Option Server} {f : Fault}

/-- A call is one of the builder that stands under the name. -/
lemma run_perform (hb : w.Holds name b) (call : BuilderCall) :
    (call.perform name).run.run w =
      match call.on b with
      | .ok (r, after) => (.ok r, w.withBuilder after)
      | .error f => (.error f, w) := by
  have hlookup : (Session.lookup? name).run.run w = (.ok (some (.builder b)), w) :=
    congrArg (fun found => (Except.ok found, w)) hb
  rw [perform, run_bind_ok hlookup]
  cases call with
  | set field x =>
    simp only [Option.getD_some, Session.configure, bind_assoc, pure_bind, on]
    cases field.set b x <;> rfl
  | build =>
    simp only [Option.getD_some, Session.build, bind_assoc, pure_bind, on]
    cases b.build <;> rfl

/-- A call that succeeds brings the builder up to date. -/
lemma perform_eq_ok (hb : w.Holds name b) {w' : Workspace}
    (h : (call.perform name).run.run w = (.ok r, w')) :
    ∃ after, call.on b = .ok (r, after) ∧ w' = w.withBuilder after := by
  rw [run_perform hb] at h
  rcases hcall : call.on b with f | ⟨q, after⟩
  · rw [hcall] at h
    cases h
  · rw [hcall] at h
    cases h
    exact ⟨after, rfl, rfl⟩

/-- A call that fails leaves the workspace as it was. -/
lemma perform_eq_error (hb : w.Holds name b) {w' : Workspace}
    (h : (call.perform name).run.run w = (.error f, w')) : w' = w := by
  rw [run_perform hb] at h
  rcases hcall : call.on b with f | ⟨q, after⟩
  · rw [hcall] at h
    cases h
    rfl
  · rw [hcall] at h
    cases h

/-- A call that succeeds is of an open builder, and either sets a field to a checked value, or
builds and closes. -/
lemma on_eq_ok (h : call.on b = .ok (r, b')) :
    b.frozen = false ∧
      ((∃ field v x, call = set field v ∧ field.check v = .ok x ∧ r = none ∧ b' = field.put x b) ∨
        ∃ a, call = build ∧ b.address = some a ∧ r = some (b.toServer a) ∧
          b' = { b with frozen := true }) := by
  cases call with
  | set field v =>
    obtain ⟨after, hafter, h⟩ := Checked.bind_eq_ok h
    cases h
    rw [BuilderField.set_eq] at hafter
    obtain ⟨x, hx, rfl⟩ := ServerBuilder.set_eq_ok hafter
    exact ⟨(ServerBuilder.whileOpen_eq_ok hafter).1, Or.inl ⟨field, v, x, rfl, hx, rfl, rfl⟩⟩
  | build =>
    obtain ⟨⟨s, after⟩, hbuild, h⟩ := Checked.bind_eq_ok h
    cases h
    obtain ⟨hopen, a, ha, rfl, rfl⟩ := ServerBuilder.build_eq_ok hbuild
    exact ⟨hopen, Or.inr ⟨a, rfl, ha, rfl, rfl⟩⟩

/-- A call changes no builder into another object. -/
lemma ident_of_on (h : call.on b = .ok (r, b')) : b'.ident = b.ident := by
  obtain ⟨-, ⟨field, v, x, -, -, -, rfl⟩ | ⟨a, -, -, -, rfl⟩⟩ := on_eq_ok h
  · exact BuilderField.ident_put x
  · rfl

/-- A builder that is closed refuses every call, whatever the value. -/
lemma on_of_frozen (h : b.frozen = true) (call : BuilderCall) :
    call.on b = .error (.refused .alreadyBuilt) := by
  cases call with
  | set field v =>
    rw [on, BuilderField.set_eq, ServerBuilder.whileOpen, if_pos h]
    rfl
  | build =>
    rw [on, ServerBuilder.build, ServerBuilder.whileOpen, if_pos h]
    rfl

/-- What builds is open and has an address, and yields the description with its fields. -/
lemma on_build_eq_ok (h : build.on b = .ok (r, b')) :
    b.frozen = false ∧ ∃ a, b.address = some a ∧ r = some (b.toServer a) := by
  obtain ⟨hopen, ⟨field, v, x, hcall, -⟩ | ⟨a, -, ha, hr, -⟩⟩ := on_eq_ok h
  · cases hcall
  · exact ⟨hopen, a, ha, hr⟩

/-- An open builder with an address builds. -/
lemma on_build {a : Address} (hopen : b.frozen = false) (ha : b.address = some a) :
    build.on b = .ok (some (b.toServer a), { b with frozen := true }) := by
  rw [on, ServerBuilder.build, ServerBuilder.whileOpen, hopen, ha]
  rfl

end BuilderCall

/-! ## What the calls that succeed leave behind -/

namespace BuilderField

variable {field other : BuilderField} {done : List BuilderCall} {v : Value}

/-- What a call sets a field to, if it is one of its setter with a value that passes the check. -/
def setBy (field : BuilderField) : BuilderCall → Option field.Content
  | .set other v => if other = field then (field.check v).toOption else none
  | .build => none

/-- What a field was last set to by several calls, if any of them set it. -/
def lastSet (field : BuilderField) (done : List BuilderCall) : Option field.Content :=
  (done.filterMap field.setBy).getLast?

/-- One more call sets a field anew, or leaves it as it was last set. -/
lemma lastSet_concat (field : BuilderField) (done : List BuilderCall) (call : BuilderCall) :
    field.lastSet (done ++ [call]) = (field.setBy call).or (field.lastSet done) := by
  unfold lastSet
  rw [List.filterMap_append]
  cases hset : field.setBy call with
  | none =>
    rw [List.filterMap_cons_none hset, List.filterMap_nil, List.append_nil, Option.none_or]
  | some x =>
    rw [List.filterMap_cons_some hset, List.filterMap_nil, List.getLast?_concat, Option.some_or]

/-- A call sets a field to what passes its check. -/
lemma setBy_eq_some_iff {call : BuilderCall} {x : field.Content} :
    field.setBy call = some x ↔ ∃ v, call = .set field v ∧ field.check v = .ok x := by
  constructor
  · intro h
    cases call with
    | set other v =>
      rw [setBy] at h
      by_cases hfield : other = field
      · subst hfield
        refine ⟨v, rfl, ?_⟩
        rw [if_pos rfl] at h
        cases hcheck : other.check v with
        | error e =>
          rw [hcheck] at h
          cases h
        | ok y =>
          rw [hcheck] at h
          exact congrArg Except.ok (Option.some.inj h)
      · rw [if_neg hfield] at h
        cases h
    | build => cases h
  · rintro ⟨v, rfl, hv⟩
    rw [setBy, if_pos rfl, hv]
    rfl

/-- What a field was last set to is the checked value of one of the calls. -/
lemma exists_of_lastSet {x : field.Content} (h : field.lastSet done = some x) :
    ∃ v, .set field v ∈ done ∧ field.check v = .ok x := by
  obtain ⟨call, hcall, hset⟩ := List.mem_filterMap.mp (List.mem_of_getLast? h)
  obtain ⟨v, rfl, hv⟩ := setBy_eq_some_iff.mp hset
  exact ⟨v, hcall, hv⟩

/-- A field that one of the calls has set, was set last by some call. -/
lemma exists_lastSet {x : field.Content} (hv : field.check v = .ok x)
    (hcall : .set field v ∈ done) : ∃ y, field.lastSet done = some y := by
  have hmem : x ∈ done.filterMap field.setBy :=
    List.mem_filterMap.mpr ⟨.set field v, hcall, setBy_eq_some_iff.mpr ⟨v, rfl, hv⟩⟩
  exact ⟨_, List.getLast?_eq_some_getLast (List.ne_nil_of_mem hmem)⟩

end BuilderField

namespace ServerBuilder

variable {b b' : ServerBuilder} {done : List BuilderCall} {call : BuilderCall} {r : Option Server}

/-- A builder is as a new one after the calls that succeeded: closed if one of them has built, and
with each field as it was last set. -/
structure Reflects (b : ServerBuilder) (done : List BuilderCall) : Prop where
  frozen : b.frozen = true ↔ .build ∈ done
  get : ∀ field : BuilderField,
    field.get b = (field.lastSet done).or (field.get ServerBuilder.new)
  checked : ∀ (field : BuilderField) (v : Value), .set field v ∈ done → ∃ x, field.check v = .ok x

/-- A new builder is as no calls have left it. -/
lemma reflects_new (ident : Ident) : { ServerBuilder.new with ident := ident }.Reflects [] where
  frozen := ⟨nofun, nofun⟩
  get field := by cases field <;> rfl
  checked := nofun

/-- A setter replaces its own field by the checked value, which is what the field was last set to,
and leaves the others alone. -/
lemma Reflects.put (h : b.Reflects done) {field : BuilderField} {v : Value} {x : field.Content}
    (hx : field.check v = .ok x) : (field.put x b).Reflects (done ++ [.set field v]) where
  frozen := by
    rw [BuilderField.frozen_put, h.frozen]
    simp
  get other := by
    rw [BuilderField.lastSet_concat]
    by_cases hfield : field = other
    · subst hfield
      have hset : field.setBy (.set field v) = some x :=
        BuilderField.setBy_eq_some_iff.mpr ⟨v, rfl, hx⟩
      rw [BuilderField.get_put_self, hset]
      rfl
    · have hset : other.setBy (.set field v) = none := by
        rw [BuilderField.setBy, if_neg hfield]
      rw [BuilderField.get_put_of_ne hfield, hset, Option.none_or]
      exact h.get other
  checked other w hw := by
    rcases List.mem_append.mp hw with hw | hw
    · exact h.checked other w hw
    · cases List.mem_singleton.mp hw
      exact ⟨x, hx⟩

/-- Building closes the builder, and leaves all fields alone. -/
lemma Reflects.close (h : b.Reflects done) :
    { b with frozen := true }.Reflects (done ++ [BuilderCall.build]) where
  frozen := by simp
  get field := by
    rw [BuilderField.get_frozen, BuilderField.lastSet_concat]
    exact h.get field
  checked field v hv := by
    rcases List.mem_append.mp hv with hv | hv
    · exact h.checked field v hv
    · cases List.mem_singleton.mp hv

/-- **What one call preserves.** A builder that is as the calls so far have left it, is so after one
more call that succeeds. -/
theorem Reflects.step (h : b.Reflects done) (hcall : call.on b = .ok (r, b')) :
    b'.Reflects (done ++ [call]) := by
  obtain ⟨-, ⟨field, v, x, rfl, hx, -, rfl⟩ | ⟨a, rfl, -, -, rfl⟩⟩ := BuilderCall.on_eq_ok hcall
  · exact h.put hx
  · exact h.close

/-- A builder has an address exactly if one of the calls has set one. -/
lemma Reflects.exists_address_iff (h : b.Reflects done) :
    (∃ a, b.address = some a) ↔ ∃ v, .set .address v ∈ done := by
  have haddress : b.address = (BuilderField.address.lastSet done).or none := h.get .address
  rw [Option.or_none] at haddress
  rw [haddress]
  constructor
  · rintro ⟨a, ha⟩
    obtain ⟨v, hv, -⟩ := BuilderField.exists_of_lastSet ha
    exact ⟨v, hv⟩
  · rintro ⟨v, hv⟩
    obtain ⟨x, hx⟩ := h.checked .address v hv
    exact BuilderField.exists_lastSet hx hv

end ServerBuilder

/-- A description is as the calls that succeeded have it: each field is what it was last set to, or
else its default, and within the bounds of its check. -/
structure Server.BuiltBy (s : Server) (done : List BuilderCall) : Prop where
  address : ∃ a : Address, BuilderField.address.lastSet done = some a ∧ s.address = a.toValue
  reachable : s.reachable = .bool ((BuilderField.reachable.lastSet done).getD false)
  primary : s.primary = .bool ((BuilderField.primary.lastSet done).getD false)
  secondary : s.secondary = .bool ((BuilderField.secondary.lastSet done).getD false)
  ping : ∃ n : Integer, n = (BuilderField.ping.lastSet done).getD ⟨0, false⟩ ∧
    s.ping = .int n ∧ 0 ≤ n.value
  labels : s.labels = (BuilderField.labels.lastSet done).getD LabelSet.empty
  maxDocumentSize : ∃ n : Integer,
    n = (BuilderField.maxDocumentSize.lastSet done).getD Reply.defaultMaxDocumentSize ∧
    s.maxDocumentSize = .int n ∧ 0 < n.value

namespace ServerBuilder

variable {b : ServerBuilder} {done : List BuilderCall}

/-- The ping time that was last set, or else zero, is not negative. -/
lemma nonneg_lastSet_ping (done : List BuilderCall) :
    0 ≤ Integer.value ((BuilderField.ping.lastSet done).getD ⟨0, false⟩) := by
  cases hset : BuilderField.ping.lastSet done with
  | none => exact Int.le_refl 0
  | some n =>
    obtain ⟨v, -, hv⟩ := BuilderField.exists_of_lastSet hset
    exact Checked.nonneg_of_nonNegative hv

/-- The size that was last set, or else the usual one, is positive. -/
lemma pos_lastSet_maxDocumentSize (done : List BuilderCall) :
    0 < Integer.value
      ((BuilderField.maxDocumentSize.lastSet done).getD Reply.defaultMaxDocumentSize) := by
  cases hset : BuilderField.maxDocumentSize.lastSet done with
  | none => decide
  | some n =>
    obtain ⟨v, -, hv⟩ := BuilderField.exists_of_lastSet hset
    exact Checked.one_le_of_positive hv

/-- A field that is never missing holds what it was last set to, or else its default. -/
lemma Reflects.eq_getD (h : b.Reflects done) (field : BuilderField) {x d : field.Content}
    (hx : field.get b = some x) (hd : field.get ServerBuilder.new = some d) :
    x = (field.lastSet done).getD d := by
  have hget := h.get field
  rw [hx, hd, Option.or_some, Option.some.injEq] at hget
  exact hget

/-- What a builder builds is as the calls that succeeded have it. -/
lemma Reflects.builtBy (h : b.Reflects done) {a : Address} (ha : b.address = some a) :
    (b.toServer a).BuiltBy done where
  address := by
    have haddress : b.address = (BuilderField.address.lastSet done).or none := h.get .address
    rw [Option.or_none, ha] at haddress
    exact ⟨a, haddress.symm, rfl⟩
  reachable := congrArg Value.bool (h.eq_getD .reachable rfl rfl)
  primary := congrArg Value.bool (h.eq_getD .primary rfl rfl)
  secondary := congrArg Value.bool (h.eq_getD .secondary rfl rfl)
  ping := ⟨_, rfl, congrArg Value.int (h.eq_getD .ping rfl rfl), nonneg_lastSet_ping done⟩
  labels := h.eq_getD .labels rfl rfl
  maxDocumentSize := ⟨_, rfl, congrArg Value.int (h.eq_getD .maxDocumentSize rfl rfl),
    pos_lastSet_maxDocumentSize done⟩

end ServerBuilder

/-! ## Sequences of calls -/

namespace Workspace

variable {w : Workspace} {name : String} {done : List BuilderCall}

/-- A name stands for a builder that is as the calls that succeeded have left it. -/
def Tracks (w : Workspace) (name : String) (done : List BuilderCall) : Prop :=
  ∃ b, w.Holds name b ∧ b.ident.isSome ∧ b.Reflects done

/-- **What any sequence of calls preserves.** A builder that is as the calls so far have left it, is
so after any further calls.

**Proof sketch.** Induction on the calls. One that fails changes nothing; one that succeeds takes
the builder to one that it has left so. -/
theorem Tracks.afterCalls (h : w.Tracks name done) (calls : List BuilderCall) :
    (w.afterCalls name calls).Tracks name (done ++ BuilderCall.succeeding name w calls) := by
  induction calls generalizing w done with
  | nil =>
    rw [BuilderCall.succeeding, List.append_nil]
    exact h
  | cons call rest ih =>
    obtain ⟨b, hb, hident, hreflects⟩ := h
    have hrun := BuilderCall.run_perform hb call
    rw [Workspace.afterCalls, List.foldl_cons, BuilderCall.succeeding, hrun]
    cases hcall : call.on b with
    | error f => exact ih ⟨b, hb, hident, hreflects⟩
    | ok result =>
      obtain ⟨r, b'⟩ := result
      have hsame : b'.ident = b.ident := BuilderCall.ident_of_on hcall
      have hnext : (w.withBuilder b').Tracks name (done ++ [call]) :=
        ⟨b', hb.withBuilder hsame hident, hsame ▸ hident, hreflects.step hcall⟩
      have hrest := ih hnext
      rw [List.append_assoc] at hrest
      exact hrest

end Workspace

namespace BuilderCall

variable {w : Workspace} {name : String}

/-- **A builder builds once, from the calls that succeeded.** After any sequence of calls of a new
builder, its fields are what they were last set to, and it is closed exactly if it has built. A
further call that fails changes nothing at all. `build` succeeds exactly if it has not done so yet
and an address has been set, and yields the description that the calls that succeeded amount to.
Once it has built, every call is refused for that reason. -/
theorem sequence_builds_once {n : Nat}
    (hnew : w.Holds name { ServerBuilder.new with ident := some n }) (calls : List BuilderCall) :
    let after := w.afterCalls name calls
    let done := succeeding name w calls
    (∃ b, after.Holds name b ∧ b.Reflects done) ∧
    (∀ (call : BuilderCall) f w', (call.perform name).run.run after = (.error f, w') → w' = after) ∧
    ((∃ r w', (build.perform name).run.run after = (.ok r, w')) ↔
      build ∉ done ∧ ∃ v, set .address v ∈ done) ∧
    (∀ r w', (build.perform name).run.run after = (.ok r, w') → ∃ s, r = some s ∧ s.BuiltBy done) ∧
    (build ∈ done → ∀ call : BuilderCall,
      (call.perform name).run.run after = (.error (.refused .alreadyBuilt), after)) := by
  intro after done
  have htracks : w.Tracks name [] := ⟨_, hnew, rfl, ServerBuilder.reflects_new (some n)⟩
  obtain ⟨b, hb, hident, hreflects⟩ : after.Tracks name done := htracks.afterCalls calls
  refine ⟨⟨b, hb, hreflects⟩, fun call f w' hrun => ?_, ⟨?_, ?_⟩, fun r w' hrun => ?_,
    fun hbuilt call => ?_⟩
  · exact perform_eq_error hb hrun
  · rintro ⟨r, w', hrun⟩
    obtain ⟨b', hbuild, -⟩ := perform_eq_ok hb hrun
    obtain ⟨hopen, haddress⟩ := on_build_eq_ok hbuild
    refine ⟨fun hbuilt => ?_, hreflects.exists_address_iff.mp (haddress.imp fun a ha => ha.1)⟩
    rw [hreflects.frozen.mpr hbuilt] at hopen
    cases hopen
  · rintro ⟨hbuilt, haddress⟩
    obtain ⟨a, ha⟩ := hreflects.exists_address_iff.mpr haddress
    have hopen : b.frozen = false := by
      rw [← Bool.not_eq_true, hreflects.frozen]
      exact hbuilt
    refine ⟨some (b.toServer a), after.withBuilder { b with frozen := true }, ?_⟩
    rw [run_perform hb, on_build hopen ha]
  · obtain ⟨b', hbuild, -⟩ := perform_eq_ok hb hrun
    obtain ⟨-, a, ha, hr⟩ := on_build_eq_ok hbuild
    exact ⟨_, hr, hreflects.builtBy ha⟩
  · rw [run_perform hb, on_of_frozen (hreflects.frozen.mpr hbuilt)]

/-- Five calls of which three fail, and then `build` twice: the first one yields the address and the
ping time that were set, and the second one is refused. -/
theorem sequence_builds_once_five_calls :
    let w := ((Session.adopt (.builder ServerBuilder.new) >>= Session.bind "b").run.run {}).2
    let calls : List BuilderCall := [build, set .ping (.ofInt (-1)), set .address (.text "a:1"),
      set .primary (.ofInt 1), set .ping (.ofInt 7)]
    w.Holds "b" { ServerBuilder.new with ident := some 0 } ∧
      succeeding "b" w calls = [set .address (.text "a:1"), set .ping (.ofInt 7)] ∧
      (∃ s w', (build.perform "b").run.run (w.afterCalls "b" calls) = (.ok (some s), w') ∧
        s.BuiltBy [set .address (.text "a:1"), set .ping (.ofInt 7)] ∧
        s.address = .tuple [.text "a", .ofInt 1] ∧ s.ping = .ofInt 7) ∧
      ((build.perform "b").run.run (w.afterCalls "b" (calls ++ [build]))).1 =
        .error (.refused .alreadyBuilt) := by
  intro w calls
  have hnew : w.Holds "b" { ServerBuilder.new with ident := some 0 } := rfl
  have hcalls : succeeding "b" w calls = [set .address (.text "a:1"), set .ping (.ofInt 7)] := rfl
  have hmore : succeeding "b" w (calls ++ [build]) =
      [set .address (.text "a:1"), set .ping (.ofInt 7), build] := rfl
  obtain ⟨-, -, hbuilds, hbuilt, -⟩ := sequence_builds_once hnew calls
  obtain ⟨-, -, -, -, hrefused⟩ := sequence_builds_once hnew (calls ++ [build])
  rw [hcalls] at hbuilds hbuilt
  rw [hmore] at hrefused
  obtain ⟨r, w', hrun⟩ := hbuilds.mpr ⟨by simp, .text "a:1", List.mem_cons_self⟩
  obtain ⟨s, rfl, hs⟩ := hbuilt r w' hrun
  refine ⟨hnew, hcalls, ⟨s, w', hrun, hs, ?_, ?_⟩, ?_⟩
  · have hset : BuilderField.address.lastSet [set .address (.text "a:1"), set .ping (.ofInt 7)] =
        some ⟨"a", ⟨1, false⟩⟩ := rfl
    obtain ⟨a, ha, haddress⟩ := hs.address
    obtain rfl : Address.mk "a" ⟨1, false⟩ = a := Option.some.inj (hset.symm.trans ha)
    exact haddress
  · obtain ⟨n, rfl, hn, -⟩ := hs.ping
    exact hn
  · rw [hrefused (by simp) build]

end BuilderCall

end ReadRouting
