import ReadRouting.Value

set_option autoImplicit false
set_option relaxedAutoImplicit false

/-!
# Faults

Why an operation yields no result. Either this library refuses an argument, and says which
and why, or a value is used for something that values of its kind cannot do.

A refusal keeps the offending value itself; how it is worded is told in
`ReadRouting.Fault.Message`, since wording a value needs everything else.

## Main definitions

* `ReadRouting.Complaint` — what a checked option holds against a value.
* `ReadRouting.Refusal` — a complaint about an option, or a rule of the domain.
* `ReadRouting.Fault` — a refusal, or a use that a value does not support.
* `ReadRouting.Fault.kind` — the broad kind of a fault, which is what callers catch.
* `ReadRouting.FaultClass.lineage` — the wider classes that a class of faults lies in.
-/

namespace ReadRouting

/-- What a checked option can hold against a value. -/
inductive Complaint
  | notBoolean
  | notInteger
  /-- A text where an integer belongs that is not all digits. -/
  | notDigits
  | notPositive
  | negative
  | notText
  | notAddress
  | notTagSet (value : Value)
  | notTagSets
  | notRandomSource

/-- Why an argument is refused. -/
inductive Refusal
  | unknownOption (option : Value)
  | badOption (option : Value) (complaint : Complaint)
  | notLabel (value : Value)
  | notMode (value : Value)
  | unknownModeName (name : Value)
  | notPreferenceDocument
  | alreadyBuilt
  | addressMissing

/-- Why an operation yields no result. -/
inductive Fault
  | refused (r : Refusal)
  /-- The value is of a kind that does not support the operation. -/
  | unsupported
  /-- The value is of the right kind, but has no acceptable content. -/
  | illFormed
  | noSuchField
  | outOfRange
  | missingKey
  | tooLarge

/-- The broad kinds of fault. -/
inductive FaultKind
  | configuration
  | invalidArgument
  | invalidOperation
  | kind
  | content
  | field
  | position
  | key
  | magnitude
  deriving DecidableEq

/-- The kind of fault that a complaint makes: a number of the right kind that is out of
bounds is a matter of configuration, a value of the wrong kind is not. -/
def Complaint.kind : Complaint → FaultKind
  | .notDigits | .notPositive | .negative => .configuration
  | _ => .kind

/-- The kind of fault that a refusal makes. -/
def Refusal.kind : Refusal → FaultKind
  | .unknownOption _ => .configuration
  | .badOption _ complaint => complaint.kind
  | .notLabel _ => .kind
  | .notMode _ => .invalidArgument
  | .unknownModeName _ => .invalidArgument
  | .notPreferenceDocument => .kind
  | .alreadyBuilt => .invalidOperation
  | .addressMissing => .configuration

/-- The broad kind of a fault. -/
def Fault.kind : Fault → FaultKind
  | .refused r => r.kind
  | .unsupported => .kind
  | .illFormed => .content
  | .noSuchField => .field
  | .outOfRange => .position
  | .missingKey => .key
  | .tooLarge => .magnitude

/-- The classes of faults that a caller can catch: those of one kind, all that this library
raises on its own account, or any. -/
inductive FaultClass
  | ofKind (k : FaultKind)
  | routing
  | any
  deriving DecidableEq

/-- The classes that a class of faults lies in, itself first and the widest last. An invalid
argument is a matter of configuration as well as of content. -/
def FaultClass.lineage : FaultClass → List FaultClass
  | .ofKind .configuration => [.ofKind .configuration, .routing, .any]
  | .ofKind .invalidArgument =>
    [.ofKind .invalidArgument, .ofKind .configuration, .routing, .ofKind .content, .any]
  | .ofKind .invalidOperation => [.ofKind .invalidOperation, .routing, .any]
  | .ofKind k => [.ofKind k, .any]
  | .routing => [.routing, .any]
  | .any => [.any]

/-- A value, or the reason why there is none. -/
abbrev Checked (α : Type) := Except Fault α

end ReadRouting
