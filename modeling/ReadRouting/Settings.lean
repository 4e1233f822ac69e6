import ReadRouting.Validation

set_option autoImplicit false
set_option relaxedAutoImplicit false

/-!
# Selection settings

The latency window and the source of randomness that a client is configured with.

## Main definitions

* `ReadRouting.Settings.defaultLatency` — the window in milliseconds unless another is given.
* `ReadRouting.Settings.ofOptions` — settings from unchecked options.
-/

namespace ReadRouting.Settings

/-- Members within this many milliseconds of the fastest are eligible, unless another window
is given. -/
def defaultLatency : Integer := ⟨15, false⟩

/-- Settings from unchecked options. -/
def ofOptions (latency source : Value) : Checked Settings := do
  let window ← Checked.nonNegativeOrNull (.text "acceptableLatencyMS") latency
  let given ← Checked.randomSource (.text "random_source") source
  return { latency := window.getD defaultLatency, source := given }

end ReadRouting.Settings
