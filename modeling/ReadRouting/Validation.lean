import ReadRouting.Address
import ReadRouting.LabelSet
import ReadRouting.Text.Digit

set_option autoImplicit false
set_option relaxedAutoImplicit false

/-!
# Checking options

Each check takes the name of the option it speaks for and a value, and yields the value in its
proper type, or refuses it. An integer may be given as a text of digits; a tag set as a label
set or a mapping.

A text that is all digits but no numeral — because its digits are superscripts, or too many —
is not refused as an option, but as ill-formed.

## Main definitions

* `ReadRouting.Checked.boolean`, `integer`, `positive`, `nonNegative`, `nonNegativeOrNull`,
  `text`, `address`, `tagSet`, `tagSets`, `randomSource` — the checks.
* `ReadRouting.KnownOption` — the options that are known by name.
* `ReadRouting.KnownOption.check` — the check of an option given by name.
-/

namespace ReadRouting

namespace Checked

/-- Refuses the value of an option. -/
def complain {α : Type} (option : Value) (c : Complaint) : Checked α :=
  .error (.refused (.badOption option c))

/-- A truth value. -/
def boolean (option v : Value) : Checked Bool :=
  match v with
  | .bool b => .ok b
  | _ => complain option .notBoolean

/-- An integer, or a text of digits; truth values are no integers here. -/
def integer (option v : Value) : Checked Integer :=
  match v with
  | .int n => .ok n
  | .text s =>
    if Text.isDigits s then
      match Text.readInteger? s with
      | some n => .ok ⟨n, false⟩
      | none => .error .illFormed
    else complain option .notDigits
  | _ => complain option .notInteger

/-- An integer above zero. -/
def positive (option v : Value) : Checked Integer := do
  let n ← integer option v
  if n.value ≤ 0 then complain option .notPositive else return n

/-- An integer not below zero. -/
def nonNegative (option v : Value) : Checked Integer := do
  let n ← integer option v
  if n.value < 0 then complain option .negative else return n

/-- An integer not below zero, or null. -/
def nonNegativeOrNull (option v : Value) : Checked (Option Integer) :=
  match v with
  | .null => .ok none
  | _ => do return some (← nonNegative option v)

/-- A text. -/
def text (option v : Value) : Checked String :=
  match v with
  | .text s => .ok s
  | _ => complain option .notText

/-- A host and a port given apart. -/
def hostAndPort (option host port : Value) : Checked Address := do
  let h ← text option host
  let p ← positive option port
  return ⟨h, p⟩

/-- An address: a text to be read, or a pair of a text and an integer above zero. -/
def address (option v : Value) : Checked Address :=
  match v with
  | .text s => Address.parse s
  | .tuple [host, port] => hostAndPort option host port
  | .label l => hostAndPort option l.name l.value
  | _ => complain option .notAddress

/-- A tag set: a label set or a mapping. -/
def tagSet (option v : Value) : Checked LabelSet :=
  match v with
  | .labels s => .ok s
  | .mapping m => LabelSet.ofMapping m
  | _ => complain option (.notTagSet v)

/-- A sequence of tag sets; a single mapping or a text is none. -/
def tagSets (option v : Value) : Checked (List LabelSet) :=
  match v with
  | .mapping _ => complain option .notTagSets
  | .text _ => complain option .notTagSets
  | _ => do (← v.items).mapM (tagSet option)

/-- A source of randomness, or null for none. -/
def randomSource (option v : Value) : Checked (Option RandomSource) :=
  match v with
  | .null => .ok none
  | .source r => .ok (some r)
  | _ => complain option .notRandomSource

end Checked

/-- The options that are known by name. -/
inductive KnownOption
  | acceptableLatency
  | localThreshold
  | randomSource
  | tagSets
  deriving DecidableEq

namespace KnownOption

/-- The name of an option, in small letters. -/
def name : KnownOption → String
  | acceptableLatency => "acceptablelatencyms"
  | localThreshold => "localthresholdms"
  | randomSource => "random_source"
  | tagSets => "tag_sets"

/-- All options, in the order of their names. -/
def all : List KnownOption := [acceptableLatency, localThreshold, randomSource, tagSets]

/-- The option of a name, in whatever case. Only ASCII letters have a case that matters, for
no other letter has one of those as its small form and occurs in a name. -/
def ofName? (s : String) : Option KnownOption :=
  all.find? fun o => o.name.toList == s.toList.map Char.toLower

/-- The option that a value names. -/
def ofValue (option : Value) : Checked KnownOption :=
  match option with
  | .text s =>
    match ofName? s with
    | some o => .ok o
    | none => .error (.refused (.unknownOption option))
  | .bytes _ => .error (.refused (.unknownOption option))
  | _ => .error .noSuchField

/-- A checked value of an option, as a value again. -/
def checkValue (option : Value) (o : KnownOption) (v : Value) : Checked Value :=
  match o with
  | acceptableLatency | localThreshold => do
    match ← Checked.nonNegativeOrNull option v with
    | some n => return .int n
    | none => return .null
  | randomSource => do
    match ← Checked.randomSource option v with
    | some r => return .source r
    | none => return .null
  | tagSets => do
    return .tuple ((← Checked.tagSets option v).map .labels)

/-- The check of an option given by name: the option, and the checked value. -/
def check (option v : Value) : Checked (KnownOption × Value) := do
  let o ← ofValue option
  return (o, ← checkValue option o v)

end KnownOption

end ReadRouting
