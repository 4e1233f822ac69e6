import ReadRouting.Value.Shown

set_option autoImplicit false
set_option relaxedAutoImplicit false

/-!
# The wording of faults

How a refusal is worded. Only refusals have a text: a use that a value does not support is
known by its kind alone. Wording shows the offending value, which may itself fail or record
events, so the outcome of an operation is known only when it has been worded.

## Main definitions

* `ReadRouting.Refusal.message` — the text of a refusal.
* `ReadRouting.Report` — what is said of an operation that yields no result.
* `ReadRouting.Fault.report` — the report of a fault.
-/

namespace ReadRouting

/-- The names of the modes, in alphabetical order. -/
def Mode.allNames : List String :=
  [Mode.nearest, .primary, .primaryPreferred, .secondary, .secondaryPreferred].map Mode.name

/-- The text of a complaint about an option that is already shown. -/
def Complaint.message (option : String) : Complaint → Recorded String
  | .notBoolean => pure (option ++ " must be True or False")
  | .notInteger => pure ("Wrong type for " ++ option ++ ", value must be an integer")
  | .notDigits => pure ("The value of " ++ option ++ " must be an integer")
  | .notPositive => pure ("The value of " ++ option ++ " must be a positive integer")
  | .negative => pure ("The value of " ++ option ++ " must be a non negative integer")
  | .notText => pure ("Wrong type for " ++ option ++ ", value must be an instance of str")
  | .notAddress => pure (option ++ " must be a (host, port) pair or a host:port string")
  | .notTagSet v => do
    return option ++ " must be a LabelSet or a mapping, not " ++ (← v.shown)
  | .notTagSets => pure (option ++ " must be a sequence of tag sets")
  | .notRandomSource =>
    pure (option ++ " must have a choice() method like random.Random")

/-- The text of a refusal. -/
def Refusal.message : Refusal → Recorded String
  | .unknownOption option => do return "Unknown option " ++ (← option.displayed)
  | .badOption option complaint => do complaint.message (← option.displayed)
  | .notLabel v => do return "label must be a (name, value) pair, not " ++ (← v.shown)
  | .notMode v => do return (← v.shown) ++ " is not a read preference mode"
  | .unknownModeName v => do
    return "No read preference mode named " ++ (← v.shown) ++ ", must be one of " ++
      commaSeparated Mode.allNames
  | .notPreferenceDocument => pure "read preference document must be a mapping"
  | .alreadyBuilt => pure "ServerDescriptionBuilder already built"
  | .addressMissing => pure "ServerDescription requires an address"

/-- What is said of an operation that yields no result. -/
structure Report where
  kind : FaultKind
  message : Option String
  deriving DecidableEq

/-- The report of a fault. If a refusal cannot be worded, that is what is reported. -/
def Fault.report (f : Fault) : StateM (List Event) Report := do
  match f with
  | .refused r =>
    match ← r.message.run with
    | .ok text => return ⟨f.kind, some text⟩
    | .error g => return ⟨g.kind, none⟩
  | _ => return ⟨f.kind, none⟩

end ReadRouting
