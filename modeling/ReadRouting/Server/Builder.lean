import ReadRouting.Reply
import ReadRouting.Validation

set_option autoImplicit false
set_option relaxedAutoImplicit false

/-!
# Making server descriptions

A server description is made directly, from values that are kept as they are but for the
labels, or with a builder, which checks each of them. A builder builds once; then it refuses
everything.

## Main definitions

* `ReadRouting.ServerFields`, `ReadRouting.Server.ofFields` — unchecked values, and the server
  description made from them.
* `ReadRouting.ServerBuilder.new` — a builder with every field at its default.
* `ReadRouting.ServerBuilder.setAddress`, `setReachable`, `setPrimary`, `setSecondary`,
  `setPing`, `setLabels`, `setMaxDocumentSize` — the checked setters.
* `ReadRouting.ServerBuilder.build` — the server description, and the builder afterwards.
* `ReadRouting.Server.unreachable` — a server whose health check failed.

## Main results

* `ReadRouting.ServerBuilder.ofFields_fields`, `ReadRouting.ServerBuilder.ofFields_address` — what a
  builder makes is made directly from the values of its fields.
-/

namespace ReadRouting

/-- Unchecked values for the fields of a server description. All but the address have a
default. -/
structure ServerFields where
  address : Value
  reachable : Value := .bool false
  primary : Value := .bool false
  secondary : Value := .bool false
  ping : Value := .ofInt 0
  labels : Value := .null
  maxDocumentSize : Value := .int Reply.defaultMaxDocumentSize

/-- A server description from unchecked values; null labels are none. -/
def Server.ofFields (f : ServerFields) : Checked Server := do
  let tags ←
    match f.labels with
    | .null => pure LabelSet.empty
    | labels => Checked.tagSet (.text "labels") labels
  return ⟨none, f.address, f.reachable, f.primary, f.secondary, f.ping, tags, f.maxDocumentSize⟩

namespace ServerBuilder

/-- A builder with every field at its default, and no address. -/
def new : ServerBuilder :=
  { ident := none
    frozen := false
    address := none
    reachable := false
    primary := false
    secondary := false
    ping := ⟨0, false⟩
    labels := LabelSet.empty
    maxDocumentSize := Reply.defaultMaxDocumentSize }

/-- Refuses everything after the builder has built. -/
def whileOpen {α : Type} (b : ServerBuilder) (c : Checked α) : Checked α :=
  if b.frozen then .error (.refused .alreadyBuilt) else c

/-- Sets the address. -/
def setAddress (b : ServerBuilder) (v : Value) : Checked ServerBuilder :=
  b.whileOpen do return { b with address := some (← Checked.address (.text "address") v) }

/-- Sets whether the last health check succeeded. -/
def setReachable (b : ServerBuilder) (v : Value) : Checked ServerBuilder :=
  b.whileOpen do return { b with reachable := ← Checked.boolean (.text "reachable") v }

/-- Sets whether the server is the primary. -/
def setPrimary (b : ServerBuilder) (v : Value) : Checked ServerBuilder :=
  b.whileOpen do return { b with primary := ← Checked.boolean (.text "primary") v }

/-- Sets whether the server is a secondary. -/
def setSecondary (b : ServerBuilder) (v : Value) : Checked ServerBuilder :=
  b.whileOpen do return { b with secondary := ← Checked.boolean (.text "secondary") v }

/-- Sets the smoothed round trip time in nanoseconds. -/
def setPing (b : ServerBuilder) (v : Value) : Checked ServerBuilder :=
  b.whileOpen do return { b with ping := ← Checked.nonNegative (.text "average_ping_time") v }

/-- Sets the tags. -/
def setLabels (b : ServerBuilder) (v : Value) : Checked ServerBuilder :=
  b.whileOpen do return { b with labels := ← Checked.tagSet (.text "labels") v }

/-- Sets the size of the largest document that the server accepts. -/
def setMaxDocumentSize (b : ServerBuilder) (v : Value) : Checked ServerBuilder :=
  b.whileOpen do
    return { b with maxDocumentSize := ← Checked.positive (.text "max_document_size") v }

/-- The server description with the fields of a builder and a given address. -/
def toServer (b : ServerBuilder) (address : Address) : Server :=
  { ident := none
    address := address.toValue
    reachable := .bool b.reachable
    primary := .bool b.primary
    secondary := .bool b.secondary
    ping := .int b.ping
    labels := b.labels
    maxDocumentSize := .int b.maxDocumentSize }

/-- The fields of a builder as unchecked values, with a given address. -/
def fields (b : ServerBuilder) (address : Address) : ServerFields :=
  { address := address.toValue
    reachable := .bool b.reachable
    primary := .bool b.primary
    secondary := .bool b.secondary
    ping := .int b.ping
    labels := .labels b.labels
    maxDocumentSize := .int b.maxDocumentSize }

/-- Making a description from the fields of a builder checks the tags once more, which lets a label
set pass as it is. -/
theorem ofFields_fields (b : ServerBuilder) (a : Address) :
    Server.ofFields (b.fields a) = .ok (b.toServer a) := rfl

/-- Making a description from nothing but an address leaves all other fields as in a new builder. -/
theorem ofFields_address (a : Address) :
    Server.ofFields { address := a.toValue } = .ok (new.toServer a) := rfl

/-- The server description, which needs an address, and the builder afterwards, which has
built. -/
def build (b : ServerBuilder) : Checked (Server × ServerBuilder) :=
  b.whileOpen <|
    match b.address with
    | none => .error (.refused .addressMissing)
    | some a => .ok (b.toServer a, { b with frozen := true })

end ServerBuilder

/-- The description of a server whose health check failed. -/
def Server.unreachable (address : Value) : Checked Server := do
  let a ← Checked.address (.text "address") address
  return ServerBuilder.new.toServer a

end ReadRouting
