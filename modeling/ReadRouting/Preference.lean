import ReadRouting.Validation
import ReadRouting.Value.Shown

set_option autoImplicit false
set_option relaxedAutoImplicit false

/-!
# Read preferences

Making read preferences, and writing them as documents and reading them back. Tag sets never
apply to the primary: with that mode they are checked, and then dropped.

## Main definitions

* `ReadRouting.Preference.new` — a read preference from unchecked values.
* `ReadRouting.Preference.ofMode`, `ReadRouting.Preference.ofName` — for a mode, and for the
  canonical name of one.
* `ReadRouting.Preference.toDocument`, `ReadRouting.Preference.ofDocument` — as a document, and
  from one.
-/

namespace ReadRouting

/-- The modes. -/
def Mode.all : List Mode :=
  [.primary, .secondary, .primaryPreferred, .secondaryPreferred, .nearest]

/-- The mode of a canonical name. -/
def Mode.ofName? (s : String) : Option Mode := Mode.all.find? fun m => m.name == s

namespace Preference

/-- A read preference of a mode, with unchecked tag sets. -/
def ofMode (mode : Mode) (tagSets : Value) : Checked Preference := do
  let sets ← Checked.tagSets (.text "tag_sets") tagSets
  return ⟨mode, if mode = .primary then [] else sets⟩

/-- A read preference from unchecked values. -/
def new (mode tagSets : Value) : Checked Preference :=
  match mode with
  | .mode m => ofMode m tagSets
  | _ =>
    if mode.isHashable then .error (.refused (.notMode mode)) else .error .unsupported

/-- A read preference for the canonical name of a mode. -/
def ofName (name : Value) (tagSets : List Value) : Checked Preference :=
  match name with
  | .text s =>
    match Mode.ofName? s with
    | some m => ofMode m (.tuple tagSets)
    | none => .error (.refused (.unknownModeName name))
  | _ => .error (.refused (.unknownModeName name))

/-- The entries of the document of a read preference. -/
def entries (p : Preference) : Checked (List (Value × Value)) := do
  let tags ← p.tagSets.mapM LabelSet.toDocument
  let mode : Value × Value := (.text "mode", .text p.mode.name)
  return if tags.isEmpty then [mode]
    else [mode, (.text "tags", .ofList (tags.map .mapping))]

/-- The document of a read preference: its mode and, if there are any, its tag sets. -/
def toDocument (p : Preference) : Checked Mapping := do
  Mapping.ofEntries .document (← p.entries)

/-- The read preference that a document stands for. -/
def ofDocument (d : Value) : Checked Preference :=
  match d with
  | .mapping m => do
    let tags := (m.lookup? (.text "tags")).getD .null
    let tagSets ← if tags.isTrue then tags.items else pure []
    ofName ((m.lookup? (.text "mode")).getD .null) tagSets
  | _ => .error (.refused .notPreferenceDocument)

end Preference

end ReadRouting
