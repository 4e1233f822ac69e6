import ReadRouting.Server.Builder
import ReadRouting.Value.Number

set_option autoImplicit false
set_option relaxedAutoImplicit false

/-!
# Server descriptions from health checks

The description of a server that has answered a health check, from its reply and the moving
average of its round trip times. A server that answers without success is described as
unreachable.

## Main definitions

* `ReadRouting.Value.reading` — the current reading of a moving average.
* `ReadRouting.Server.pingOf` — a time in seconds as whole nanoseconds.
* `ReadRouting.Server.ofReply` — the description of a server that answered.
-/

namespace ReadRouting

/-- The current reading of a moving average; a mapping has fields, but no reading. -/
def Value.reading : Value → Checked (Option Value)
  | .average a => .ok a.current
  | .mapping _ => .error .unsupported
  | _ => .error .noSuchField

namespace Server

/-- One second in nanoseconds. -/
def nanosPerSecond : Int := 1000 * 1000 * 1000

/-- A time in seconds as the nearest whole number of nanoseconds. -/
def pingOf (seconds : Value) : Checked Int := do
  (← (← seconds.number).timesInt nanosPerSecond).round

/-- The ping time by optional round trip times: zero without any. -/
def pingOfTimes (roundTripTimes : Value) : Checked Int :=
  match roundTripTimes with
  | .null => .ok 0
  | _ => do
    match ← roundTripTimes.reading with
    | none => return 0
    | some average => pingOf average

/-- The description of a server that answered a health check with a document. -/
def ofReply (address document roundTripTimes : Value) : Checked Server := do
  let reply ← Reply.ofDocument document
  if reply.serverType = .unknown then unreachable address
  else
    let ping ← pingOfTimes roundTripTimes
    let b ← ServerBuilder.new.setAddress address
    let b ← b.setReachable (.bool true)
    let b ← b.setPrimary (.bool reply.isPrimary)
    let b ← b.setSecondary (.bool reply.isSecondary)
    let b ← b.setPing (.ofInt ping)
    let b ← b.setLabels (.labels (← reply.tags))
    let b ← b.setMaxDocumentSize (← reply.maxDocumentSize)
    return (← b.build).1

end Server

end ReadRouting
