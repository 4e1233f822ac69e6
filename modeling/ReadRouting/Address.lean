import ReadRouting.Fault
import ReadRouting.Text.Numeral

set_option autoImplicit false
set_option relaxedAutoImplicit false

/-!
# Addresses

Reading `host:port`. What follows the last colon is the port; without a colon the port is the
default one. A host that begins with an opening bracket, as a numeric address does, loses its
first and its last character.

## Main definitions

* `ReadRouting.Address.defaultPort` — the port of an address that names none.
* `ReadRouting.Address.splitLast` — a text around its last colon.
* `ReadRouting.Address.parse` — the address that a text stands for.
* `ReadRouting.Address.ofNode` — the address that an entry of a member list stands for.

## Main results

* `ReadRouting.Address.splitLast_append` — the split is at the last colon.
-/

namespace ReadRouting.Address

/-- The port of an address that names none. -/
def defaultPort : Int := 27017

/-- What stands before and after the last colon, if there is one. -/
def splitLast : List Char → Option (List Char × List Char)
  | [] => none
  | c :: cs =>
    match splitLast cs with
    | some (before, after) => some (c :: before, after)
    | none => if c = ':' then some ([], cs) else none

/-- A text without a colon is not split. -/
theorem splitLast_eq_none {cs : List Char} (h : ':' ∉ cs) : splitLast cs = none := by
  induction cs with
  | nil => rfl
  | cons c cs ih =>
    simp only [List.mem_cons, not_or] at h
    simp [splitLast, ih h.2, Ne.symm h.1]

/-- A text is split at a colon that no other colon follows. -/
theorem splitLast_append (before : List Char) {after : List Char} (h : ':' ∉ after) :
    splitLast (before ++ ':' :: after) = some (before, after) := by
  induction before with
  | nil => simp [splitLast, splitLast_eq_none h]
  | cons c cs ih => simp [splitLast, ih]

/-- A host without its first and last character if it begins with a bracket. -/
def unbracket : List Char → List Char
  | '[' :: rest => rest.dropLast
  | cs => cs

/-- The address of a host as it is written and a port. -/
def ofParts (host : List Char) (port : Int) : Address :=
  ⟨String.ofList (unbracket host), ⟨port, false⟩⟩

/-- The address that a text stands for; what follows its last colon must be a numeral. -/
def parse (s : String) : Checked Address :=
  match splitLast s.toList with
  | none => .ok (ofParts s.toList defaultPort)
  | some (host, port) =>
    match Text.readInteger? (String.ofList port) with
    | some n => .ok (ofParts host n)
    | none => .error .illFormed

/-- The address that an entry of a member list stands for, which must be a text. -/
def ofNode : Value → Checked Address
  | .text s => parse s
  | .bytes _ => .error .unsupported
  | _ => .error .noSuchField

/-! ## Written forms -/

/-- A numeric host in brackets, with a port. -/
example : parse "[::1]:8080" = .ok ⟨"::1", ⟨8080, false⟩⟩ := rfl

/-- Without a colon the port is the default one. -/
example : parse "a" = .ok ⟨"a", ⟨27017, false⟩⟩ := rfl

/-- In a bare numeric host, what follows the last colon is taken for the port. -/
example : parse "::1" = .ok ⟨":", ⟨1, false⟩⟩ := rfl

end ReadRouting.Address
