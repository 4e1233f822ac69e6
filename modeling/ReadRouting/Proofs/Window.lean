import Mathlib.Order.Bounds.Basic
import ReadRouting.Proofs.Results

set_option autoImplicit false
set_option relaxedAutoImplicit false

/-!
# The latency window

The window begins at the ping time of a server that none is faster than, and keeps exactly those
servers, in order, whose ping time is not beyond its end. That end can be computed, and is the same
whichever of the fastest servers comes first, for all servers with integer ping times: it is so much
above the least of them.

Other ping times are possible. The sum of a float and the window is rounded, so that of an integer
and a float that are equal each has an end of its own; and what is not a number has no server that
is faster, although it is not below any other either.

## Main definitions

* `ReadRouting.Server.exactPing?`, `ReadRouting.Server.windowEnd?` — what the ping time stands for,
  and where a window ends that begins there.
* `ReadRouting.Server.IsWithin` — a ping time that is not beyond the end of a window.
* `ReadRouting.Server.FasterThan` — the order of ping times.
* `ReadRouting.Server.WindowEndsAt`, `ReadRouting.Server.HasWindow` — the window of several servers
  ends at a point, whatever their order.
* `ReadRouting.Server.IsWithinOwnWindow` — a server is kept by a window that begins at its ping
  time.
* `ReadRouting.Server.nanos`, `ReadRouting.Server.HasIntegerPing` — the ping time as an integer,
  for servers that have such a one.

## Main results

* `ReadRouting.Server.exists_fastest` — the scan ends with a server that none is faster than.
* `ReadRouting.Server.exists_withinWindow` — the servers that the window keeps.
* `ReadRouting.Server.withinWindow_eq` — the same for integer ping times.
-/

namespace ReadRouting

namespace Server

/-! ## Windows that begin at the ping time of a server -/

/-- The exact number that the ping time stands for, if it is a number at all. -/
def exactPing? (s : Server) : Option Extended := s.ping.number?.map Number.exact

/-- Where a window of so many milliseconds ends that begins at the ping time. -/
def windowEnd? (window : Int) (s : Server) : Option Extended :=
  s.ping.number?.bind fun x => (x.add (window * nanosPerMilli)).toOption.map Number.exact

/-- The ping time is not beyond a bound. -/
def IsWithin (bound : Extended) (s : Server) : Prop :=
  ∃ x, s.exactPing? = some x ∧ x.le bound = true

instance (bound : Extended) (s : Server) : Decidable (s.IsWithin bound) :=
  decidable_of_iff (s.exactPing?.any (·.le bound) = true)
    (by cases h : s.exactPing? <;> simp [IsWithin, h])

/-- The server has the smaller ping time of the two. -/
def FasterThan (s t : Server) : Prop :=
  ∃ x y, s.exactPing? = some x ∧ t.exactPing? = some y ∧ x.lt y = true

instance (s t : Server) : Decidable (s.FasterThan t) :=
  decidable_of_iff ((s.exactPing?.bind fun x => t.exactPing?.map x.lt) = some true)
    (by cases hs : s.exactPing? <;> cases ht : t.exactPing? <;> simp [FasterThan, hs, ht])

variable {s t u : Server} {servers : List Server} {window : Int}

/-- What is faster than a server is faster than whatever that is faster than. -/
lemma FasterThan.trans (hst : s.FasterThan t) (htu : t.FasterThan u) : s.FasterThan u := by
  obtain ⟨x, y, hx, hy, hxy⟩ := hst
  obtain ⟨y', z, hy', hz, hyz⟩ := htu
  rw [hy] at hy'
  cases hy'
  exact ⟨x, z, hx, hz, Extended.lt_trans hxy hyz⟩

/-- No server is faster than itself. -/
lemma not_fasterThan_self (s : Server) : ¬ s.FasterThan s := by
  rintro ⟨x, y, hx, hy, hxy⟩
  rw [hx] at hy
  cases hy
  rw [Extended.lt_self] at hxy
  cases hxy

/-! ## The scan for the smallest ping time -/

/-- A step of the scan keeps the ping time of the faster server, and the earlier one of two equal
ones. -/
lemma fasterPing_eq (hs : s.exactPing?.isSome = true) (ht : t.exactPing?.isSome = true) :
    (t.FasterThan s ∧ fasterPing (some s.ping) t = .ok (some t.ping)) ∨
      (¬ t.FasterThan s ∧ fasterPing (some s.ping) t = .ok (some s.ping)) := by
  unfold exactPing? at hs ht
  rw [Option.isSome_map, Option.isSome_iff_exists] at hs ht
  obtain ⟨m, hm⟩ := hs
  obtain ⟨n, hn⟩ := ht
  have hfaster : t.FasterThan s ↔ n.lt m = true := by
    simp [FasterThan, exactPing?, hm, hn, Number.lt]
  rw [hfaster, fasterPing, Value.less_of_number hn hm]
  cases n.lt m with
  | true => exact Or.inl ⟨rfl, rfl⟩
  | false => exact Or.inr ⟨Bool.false_ne_true, rfl⟩

/-- The scan from the ping time of a server ends with that of a server which none is faster than.

**Proof sketch.** Induction on the servers that are scanned. What the scan ends with is the server
that it starts from, or faster. So whatever is faster than the last one would have been faster than
the one that it was compared with. -/
lemma foldlM_fasterPing (hs : s.exactPing?.isSome = true)
    (h : ∀ t ∈ servers, t.exactPing?.isSome = true) :
    ∃ w ∈ s :: servers, servers.foldlM fasterPing (some s.ping) = .ok (some w.ping) ∧
      (w = s ∨ w.FasterThan s) ∧ ∀ t ∈ servers, ¬ t.FasterThan w := by
  induction servers generalizing s with
  | nil => exact ⟨s, List.mem_cons_self, rfl, Or.inl rfl, nofun⟩
  | cons t ts ih =>
    obtain ⟨ht, hts⟩ := List.forall_mem_cons.mp h
    rw [List.foldlM_cons]
    rcases fasterPing_eq hs ht with ⟨hfaster, hstep⟩ | ⟨hslower, hstep⟩
    · obtain ⟨w, hw, hscan, hwt, hrest⟩ := ih ht hts
      rw [hstep]
      refine ⟨w, List.mem_cons_of_mem s hw, hscan, Or.inr ?_, List.forall_mem_cons.mpr ⟨?_, hrest⟩⟩
      · rcases hwt with rfl | hwt
        · exact hfaster
        · exact hwt.trans hfaster
      · rcases hwt with rfl | hwt
        · exact not_fasterThan_self w
        · exact fun htw => not_fasterThan_self t (htw.trans hwt)
    · obtain ⟨w, hw, hscan, hws, hrest⟩ := ih hs hts
      rw [hstep]
      refine ⟨w, ?_, hscan, hws, List.forall_mem_cons.mpr ⟨fun htw => hslower ?_, hrest⟩⟩
      · rcases List.mem_cons.mp hw with rfl | hw
        · exact List.mem_cons_self
        · exact List.mem_cons_of_mem s (List.mem_cons_of_mem t hw)
      · rcases hws with rfl | hws
        · exact htw
        · exact htw.trans hws

/-- The scan of several servers ends with the ping time of one that none of them is faster than. -/
theorem exists_fastest (h : ∀ s ∈ servers, s.exactPing?.isSome = true) (hne : servers ≠ []) :
    ∃ s ∈ servers, fastestPing servers = .ok (some s.ping) ∧ ∀ t ∈ servers, ¬ t.FasterThan s := by
  cases servers with
  | nil => exact absurd rfl hne
  | cons s ss =>
    obtain ⟨hs, hss⟩ := List.forall_mem_cons.mp h
    obtain ⟨w, hw, hscan, hws, hrest⟩ := foldlM_fasterPing hs hss
    refine ⟨w, hw, hscan, List.forall_mem_cons.mpr ⟨?_, hrest⟩⟩
    rcases hws with rfl | hws
    · exact not_fasterThan_self w
    · exact fun hsw => not_fasterThan_self s (hsw.trans hws)

/-! ## What the window keeps -/

/-- The window begins at the ping time of a server that none is faster than. If its end can be
computed there, it keeps the servers whose ping times are not beyond that. -/
theorem exists_withinWindow (h : ∀ s ∈ servers, s.exactPing?.isSome = true) (hne : servers ≠ [])
    (window : Int) :
    ∃ s ∈ servers, (∀ t ∈ servers, ¬ t.FasterThan s) ∧
      ∀ bound, s.windowEnd? window = some bound →
        withinWindow window servers = .ok (servers.filter fun t => t.IsWithin bound) := by
  obtain ⟨s, hs, hscan, hfastest⟩ := exists_fastest h hne
  refine ⟨s, hs, hfastest, fun bound hbound => ?_⟩
  obtain ⟨n, hn, hend⟩ := Option.bind_eq_some_iff.mp hbound
  cases hadd : n.add (window * nanosPerMilli) with
  | error e =>
    rw [hadd] at hend
    cases hend
  | ok b =>
    rw [hadd] at hend
    cases hend
    have hnumber : s.ping.number = .ok n := by rw [Value.number, hn]
    have hkept : ∀ t ∈ servers, t.ping.atMost b = .ok (decide (t.IsWithin b.exact)) := by
      intro t ht
      have htping := h t ht
      rw [exactPing?, Option.isSome_map, Option.isSome_iff_exists] at htping
      obtain ⟨m, hm⟩ := htping
      have hwithin : t.IsWithin b.exact ↔ m.le b = true := by
        simp [IsWithin, exactPing?, hm, Number.le]
      rw [Value.atMost_of_number hm, Except.ok.injEq, Bool.eq_iff_iff, decide_eq_true_iff, hwithin]
    unfold withinWindow
    rw [hscan]
    change (s.ping.number >>= fun x => x.add _ >>= fun bound => Checked.filter _ _) = _
    rw [hnumber]
    change (n.add _ >>= fun bound => Checked.filter _ _) = _
    rw [hadd]
    exact Checked.filter_eq_ok hkept

/-- The latency window of several servers ends at a point that does not depend on their order: the
ping times are numbers, and from whichever server that none is faster than the window begins, it
ends there. -/
structure WindowEndsAt (window : Int) (servers : List Server) (bound : Extended) : Prop where
  isNumber : ∀ s ∈ servers, s.exactPing?.isSome = true
  ends : ∀ s ∈ servers, (∀ t ∈ servers, ¬ t.FasterThan s) → s.windowEnd? window = some bound

instance (window : Int) (servers : List Server) (bound : Extended) :
    Decidable (WindowEndsAt window servers bound) :=
  decidable_of_iff
    ((∀ s ∈ servers, s.exactPing?.isSome = true) ∧
      ∀ s ∈ servers, (∀ t ∈ servers, ¬ t.FasterThan s) → s.windowEnd? window = some bound)
    ⟨fun h => ⟨h.1, h.2⟩, fun h => ⟨h.isNumber, h.ends⟩⟩

/-- The servers have a latency window that does not depend on their order. -/
def HasWindow (window : Int) (servers : List Server) : Prop :=
  ∃ bound, WindowEndsAt window servers bound

/-- A window keeps the servers whose ping times are not beyond its end. -/
lemma WindowEndsAt.withinWindow_eq {bound : Extended} (h : WindowEndsAt window servers bound)
    (hne : servers ≠ []) :
    withinWindow window servers = .ok (servers.filter fun s => s.IsWithin bound) := by
  obtain ⟨s, hs, hfastest, hkept⟩ := exists_withinWindow h.isNumber hne window
  exact hkept bound (h.ends s hs hfastest)

/-- A window that begins at the ping time of a server keeps that server. -/
def IsWithinOwnWindow (window : Int) (s : Server) : Prop :=
  ∃ bound, s.windowEnd? window = some bound ∧ s.IsWithin bound

/-- The window keeps somebody: the one that it begins at. -/
lemma exists_withinWindow_ne_nil (h : ∀ s ∈ servers, s.IsWithinOwnWindow window)
    (hne : servers ≠ []) : ∃ pool ≠ [], withinWindow window servers = .ok pool := by
  have hpings : ∀ s ∈ servers, s.exactPing?.isSome = true := by
    intro s hs
    obtain ⟨bound, -, x, hx, -⟩ := h s hs
    exact Option.isSome_of_mem hx
  obtain ⟨s, hs, -, hkept⟩ := exists_withinWindow hpings hne window
  obtain ⟨bound, hbound, hwithin⟩ := h s hs
  exact ⟨_, List.ne_nil_of_mem (List.mem_filter.mpr ⟨hs, decide_eq_true hwithin⟩),
    hkept bound hbound⟩

/-- Whatever the ping times are, the window keeps none but the given servers. -/
lemma mem_of_mem_withinWindow {pool : List Server} (h : withinWindow window servers = .ok pool)
    (hs : s ∈ pool) : s ∈ servers := by
  obtain ⟨_ | v, -, h⟩ := Checked.bind_eq_ok h
  · cases h
    cases hs
  · obtain ⟨x, -, h⟩ := Checked.bind_eq_ok h
    obtain ⟨bound, -, h⟩ := Checked.bind_eq_ok h
    exact Checked.mem_of_mem_filter h hs

/-! ## Integer ping times -/

/-- The ping time as an integer, for servers that have such a one. -/
def nanos (s : Server) : Int :=
  match s.ping.number? with
  | some (.int n) => n
  | _ => 0

/-- The ping time is an integer. -/
def HasIntegerPing (s : Server) : Prop := s.ping.number? = some (.int s.nanos)

instance (s : Server) : Decidable s.HasIntegerPing :=
  match h : s.ping.number? with
  | some (.int n) => .isTrue (by unfold HasIntegerPing nanos; rw [h])
  | some (.float x) => .isFalse (by unfold HasIntegerPing nanos; rw [h]; nofun)
  | none => .isFalse (by unfold HasIntegerPing nanos; rw [h]; nofun)

/-- An integer stands for itself. -/
lemma HasIntegerPing.exactPing?_eq (h : s.HasIntegerPing) :
    s.exactPing? = some (.finite s.nanos) := by
  rw [exactPing?, h]
  rfl

/-- A window that begins at an integer ends at an integer. -/
lemma HasIntegerPing.windowEnd?_eq (h : s.HasIntegerPing) (window : Int) :
    s.windowEnd? window = some (.finite (s.nanos + window * 1000000 : Int)) := by
  rw [windowEnd?, h]
  rfl

/-- Servers with integer ping times are compared by these. -/
lemma HasIntegerPing.fasterThan_iff (hs : s.HasIntegerPing) (ht : t.HasIntegerPing) :
    s.FasterThan t ↔ s.nanos < t.nanos := by
  have hlt : (Number.int s.nanos).lt (.int t.nanos) = decide (s.nanos < t.nanos) :=
    Number.lt_int s.nanos t.nanos
  simp only [FasterThan, hs.exactPing?_eq, ht.exactPing?_eq, Option.some.injEq]
  rw [← decide_eq_true_iff (p := s.nanos < t.nanos), ← hlt]
  constructor
  · rintro ⟨x, y, hx, hy, hxy⟩
    rw [Number.lt, Number.exact, Number.exact, hx, hy]
    exact hxy
  · intro h
    exact ⟨_, _, rfl, rfl, h⟩

/-- The window of servers with integer ping times ends so much above the least one. -/
lemma exists_windowEndsAt (h : ∀ s ∈ servers, s.HasIntegerPing) (hne : servers ≠ [])
    (window : Int) :
    ∃ n, IsLeast {k | ∃ s ∈ servers, s.nanos = k} n ∧
      WindowEndsAt window servers (.finite (n + window * 1000000 : Int)) := by
  have hpings : ∀ s ∈ servers, s.exactPing?.isSome = true :=
    fun s hs => by rw [(h s hs).exactPing?_eq]; rfl
  have hleast : ∀ s ∈ servers, (∀ t ∈ servers, ¬ t.FasterThan s) →
      IsLeast {k | ∃ s ∈ servers, s.nanos = k} s.nanos := by
    intro s hs hfastest
    refine ⟨⟨s, hs, rfl⟩, ?_⟩
    rintro k ⟨t, ht, rfl⟩
    have hslower := hfastest t ht
    rw [(h t ht).fasterThan_iff (h s hs)] at hslower
    exact not_lt.mp hslower
  obtain ⟨s, hs, -, hfastest⟩ := exists_fastest hpings hne
  refine ⟨s.nanos, hleast s hs hfastest, hpings, fun t ht hfastest' => ?_⟩
  rw [(h t ht).windowEnd?_eq, (hleast t ht hfastest').unique (hleast s hs hfastest)]

/-- Servers with integer ping times have a latency window. -/
lemma hasWindow_of_integers (h : ∀ s ∈ servers, s.HasIntegerPing) (window : Int) :
    HasWindow window servers := by
  by_cases hempty : servers = []
  · subst hempty
    exact ⟨.nan, nofun, nofun⟩
  · obtain ⟨n, -, hwindow⟩ := exists_windowEndsAt h hempty window
    exact ⟨_, hwindow⟩

/-- A ping time that is an integer is within a window that ends at one if it is at most that. -/
lemma HasIntegerPing.isWithin_iff (h : s.HasIntegerPing) (n : Int) :
    s.IsWithin (.finite n) ↔ s.nanos ≤ n := by
  have hle : (Number.int s.nanos).le (.int n) = decide (s.nanos ≤ n) := Number.le_int _ _
  have hwithin : s.IsWithin (.finite n) ↔ (Number.int s.nanos).le (.int n) = true := by
    simp [IsWithin, h.exactPing?_eq, Number.le, Number.exact]
  rw [hwithin, hle, decide_eq_true_iff]

/-- An integer is within the window that begins at it. -/
lemma HasIntegerPing.isWithinOwnWindow (h : s.HasIntegerPing) (hwindow : 0 ≤ window) :
    s.IsWithinOwnWindow window :=
  ⟨_, h.windowEnd?_eq window, (h.isWithin_iff _).mpr (by omega)⟩

/-- The window keeps the servers whose ping time is at most so much above the least one. -/
theorem withinWindow_eq (h : ∀ s ∈ servers, s.HasIntegerPing) (hne : servers ≠ [])
    (window : Int) :
    ∃ n, IsLeast {k | ∃ s ∈ servers, s.nanos = k} n ∧
      withinWindow window servers =
        .ok (servers.filter fun s => s.nanos ≤ n + window * 1000000) := by
  obtain ⟨n, hleast, hwindow⟩ := exists_windowEndsAt h hne window
  refine ⟨n, hleast, ?_⟩
  rw [hwindow.withinWindow_eq hne]
  congr 1
  apply List.filter_congr
  intro s hs
  rw [Bool.eq_iff_iff, decide_eq_true_iff, decide_eq_true_iff, (h s hs).isWithin_iff]

end Server

end ReadRouting
