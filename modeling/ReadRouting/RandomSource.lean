import ReadRouting.Value.Sequence

set_option autoImplicit false
set_option relaxedAutoImplicit false

/-!
# Draws

How a random source picks one of several candidates. Sources are scripted, but for the one
that clusters share, of which nothing is promised but that it picks a candidate if there are
any.

## Main definitions

* `ReadRouting.DrawPlan.position` — the position picked among so many candidates.
* `ReadRouting.RandomSource.draw` — the candidate picked.
-/

namespace ReadRouting

/-- The position among `size` candidates that is picked at a draw, the source having answered
`earlier` draws before. -/
def DrawPlan.position (plan : DrawPlan) (earlier size : Nat) : Checked Nat :=
  match plan with
  | .shared => if size = 0 then .error .outOfRange else .ok 0
  | .fixed i => ReadRouting.position i size
  | .cycle positions =>
    if size = 0 then .error .outOfRange
    else .ok ((positions[earlier % positions.length]?.getD 0) % (size : Int)).toNat

/-- The candidate that a source picks. -/
def RandomSource.draw {α : Type} (r : RandomSource) (earlier : Nat) (candidates : List α) :
    Checked α := do
  let i ← r.plan.position earlier candidates.length
  match candidates[i]? with
  | some a => .ok a
  | none => .error .outOfRange

end ReadRouting
