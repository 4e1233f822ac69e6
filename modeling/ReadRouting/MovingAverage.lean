import ReadRouting.Value.Number
import ReadRouting.Value.Sequence

set_option autoImplicit false
set_option relaxedAutoImplicit false

/-!
# Moving averages

Smoothed round trip times. Each new sample contributes a fifth of the new average; the first
is the average by itself, as it was given. The five most recent samples are kept.

## Main definitions

* `ReadRouting.MovingAverage.step` — the average after one more sample.
* `ReadRouting.MovingAverage.ofSamples` — the average of a sequence of samples.
* `ReadRouting.MovingAverage.add` — a new average with one more sample.
-/

namespace ReadRouting.MovingAverage

/-- The weight of a new sample. -/
def weight : Float := 0.2

/-- How many samples are kept. -/
def keptSamples : Nat := 5

/-- The average after one more sample. -/
def step (average sample : Value) : Checked Value := do
  let fresh ← (← sample.number).scale weight
  let rest ← (← average.number).scale (1 - weight)
  return .ofFloat (fresh + rest)

/-- The average that a value stands for; null stands for none. -/
def ofValue? : Value → Option Value
  | .null => none
  | v => some v

/-- The average of samples in order: the first one stands for itself. -/
def averageOf : List Value → Checked (Option Value)
  | [] => .ok none
  | first :: rest => do return ofValue? (← rest.foldlM step first)

/-- The most recent samples of a list. -/
def recent (samples : List Value) : List Value := samples.drop (samples.length - keptSamples)

/-- A moving average over samples. An average that is given is taken as it is. -/
def ofList (samples : List Value) (average : Option Value) : Checked MovingAverage := do
  let current ←
    match average with
    | some v => pure (some v)
    | none => averageOf samples
  return ⟨none, recent samples, current⟩

/-- A moving average over the samples that a value yields; null stands for no average. -/
def ofSamples (samples average : Value) : Checked MovingAverage := do
  let xs ← samples.items
  ofList xs (ofValue? average)

/-- A moving average with one more sample. -/
def add (a : MovingAverage) (sample : Value) : Checked MovingAverage :=
  match a.current with
  | none => ofList [sample] none
  | some average => do
    let next ← step average sample
    ofList (a.samples ++ [sample]) (some next)

end ReadRouting.MovingAverage
