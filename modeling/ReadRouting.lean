import ReadRouting.Address
import ReadRouting.Cluster.Selection
import ReadRouting.Cluster.Snapshot
import ReadRouting.Event
import ReadRouting.Fault
import ReadRouting.Fault.Message
import ReadRouting.LabelSet
import ReadRouting.Mapping.Edit
import ReadRouting.MovingAverage
import ReadRouting.Number.Binary64
import ReadRouting.Number.Shortest
import ReadRouting.Preference
import ReadRouting.Preference.Choose
import ReadRouting.Proofs.Draw
import ReadRouting.Proofs.Eligible
import ReadRouting.Proofs.HealthCheck
import ReadRouting.Proofs.Monitor
import ReadRouting.Proofs.Offer
import ReadRouting.Proofs.Outcome
import ReadRouting.Proofs.Results
import ReadRouting.Proofs.TagSets
import ReadRouting.Proofs.Update
import ReadRouting.Proofs.Warning
import ReadRouting.Proofs.Window
import ReadRouting.RandomSource
import ReadRouting.Reply
import ReadRouting.Server.Builder
import ReadRouting.Server.HealthCheck
import ReadRouting.Server.Role
import ReadRouting.Settings
import ReadRouting.Text.Digit
import ReadRouting.Text.Numeral
import ReadRouting.Text.Printable
import ReadRouting.Text.Quoted
import ReadRouting.Validation
import ReadRouting.Value
import ReadRouting.Value.Equality
import ReadRouting.Value.Key
import ReadRouting.Value.Number
import ReadRouting.Value.Objects
import ReadRouting.Value.Order
import ReadRouting.Value.Sequence
import ReadRouting.Value.Shown
import ReadRouting.Version
import ReadRouting.Workspace
import ReadRouting.Proofs.Alike
import ReadRouting.Proofs.Comparison
import ReadRouting.Proofs.Entries
import ReadRouting.Proofs.RoundTrip
import ReadRouting.Proofs.Rendering
import ReadRouting.Proofs.Place
import ReadRouting.Proofs.AnyOrder
import ReadRouting.Proofs.Rearranged
import ReadRouting.Proofs.Equivalent
import ReadRouting.Proofs.Checks
import ReadRouting.Proofs.Numeral
import ReadRouting.Proofs.Spelling
import ReadRouting.Proofs.Wording
import ReadRouting.Proofs.Made
import ReadRouting.Proofs.Answer
import ReadRouting.Proofs.BuilderCalls
import ReadRouting.Proofs.DiscoveryOrder
import ReadRouting.Proofs.Recording
import ReadRouting.Proofs.Ineligible
import ReadRouting.Proofs.Availability
import ReadRouting.Proofs.Canonical
import ReadRouting.Proofs.Shadowed
import ReadRouting.Proofs.Averaging
import ReadRouting.Proofs.KeyOrder
import ReadRouting.Proofs.Pool
import ReadRouting.Proofs.SameKey
import ReadRouting.Proofs.Decoding
import ReadRouting.Proofs.Brackets
import ReadRouting.Proofs.Refusals
import ReadRouting.Proofs.KeyEquality
import ReadRouting.Proofs.Edits
import ReadRouting.Proofs.FailedEdits
import ReadRouting.Proofs.EventLog
import ReadRouting.Proofs.LabelFilter
import ReadRouting.Proofs.HeldEquality
import ReadRouting.Proofs.LabelEquality
import ReadRouting.Proofs.KeySlots
import ReadRouting.Proofs.SelfEquality
import ReadRouting.Proofs.Storing
