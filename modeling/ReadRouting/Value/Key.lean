import ReadRouting.Value
import ReadRouting.Number.Binary64

set_option autoImplicit false
set_option relaxedAutoImplicit false

/-!
# Keys

What a value counts as where equal values must fall together: as the key of a mapping, as a
field of a label, as a label of a set. Numbers of all kinds share their keys by numeric value,
a label has the key of the pair of its fields, and label sets have theirs up to order.
Values that may change have no key.

## Main definitions

* `ReadRouting.Key` — keys; two values that have equal keys are interchangeable.
* `ReadRouting.Value.key?` — the key of a value, if it may be used as one.
* `ReadRouting.Mapping.lookup?` — what a mapping stores under a key.

## Implementation notes

A run of keys is spelled with `nil` and `pair`, which keeps `Key` free of nesting and its
equality decidable. The keys of a label set are sorted by their spelling as integers.
-/

namespace ReadRouting

/-- What a value counts as where equal values must fall together. -/
inductive Key
  | null
  | number (q : Rat)
  | infinite (negative : Bool)
  | nan (ident : Ident)
  | text (s : String)
  | bytes (bs : List UInt8)
  | compiled (p : Pattern) (flags : PatternFlags)
  | object (ident : Ident)
  | sharedSource
  | mode (m : Mode)
  | serverType (t : ServerType)
  | clusterType (t : ClusterType)
  | nil
  | pair (head tail : Key)
  | labels (ks : Key)
  | server (ks : Key)
  | preference (m : Mode) (ks : Key)
  deriving DecidableEq

/-- Whether one sequence comes before another in a dictionary, or is the same. -/
def precedes : List Int → List Int → Bool
  | [], _ => true
  | _, [] => false
  | a :: as, b :: bs => a < b || (a == b && precedes as bs)

namespace Key

/-- The run of a list of keys. -/
def ofList : List Key → Key
  | [] => nil
  | k :: ks => pair k (ofList ks)

/-- A text as integers, its length first. -/
def spellText (s : String) : List Int :=
  (s.length : Int) :: s.toList.map fun c => (c.toNat : Int)

/-- A byte string as integers, its length first. -/
def spellBytes (bs : List UInt8) : List Int :=
  (bs.length : Int) :: bs.map fun b => (b.toNat : Int)

/-- A pattern as integers. -/
def spellPattern : Pattern → List Int
  | .text s => 0 :: spellText s
  | .bytes bs => 1 :: spellBytes bs

/-- Pattern flags as integers. -/
def spellFlags (f : PatternFlags) : List Int :=
  [f.ascii, f.ignoreCase, f.locale, f.multiline, f.dotAll, f.unicode, f.verbose].map
    fun b => if b then 1 else 0

/-- An identity as an integer. -/
def spellIdent : Ident → Int
  | none => -1
  | some n => n

/-- A mode as an integer. -/
def spellMode : Mode → Int
  | .primary => 0
  | .secondary => 1
  | .primaryPreferred => 2
  | .secondaryPreferred => 3
  | .nearest => 4

/-- A server type as an integer. -/
def spellServerType : ServerType → Int
  | .unknown => 0
  | .router => 1
  | .primary => 2
  | .secondary => 3
  | .arbiter => 4
  | .other => 5
  | .ghost => 6
  | .standalone => 7

/-- A cluster type as an integer. -/
def spellClusterType : ClusterType → Int
  | .noPrimary => 0
  | .withPrimary => 1
  | .unknown => 2

/-- A key as integers; different keys are spelled differently. -/
def spell : Key → List Int
  | null => [0]
  | number q => [1, q.num, q.den]
  | infinite negative => [2, if negative then 1 else 0]
  | nan ident => [3, spellIdent ident]
  | text s => 4 :: spellText s
  | bytes bs => 5 :: spellBytes bs
  | compiled p flags => 6 :: spellPattern p ++ spellFlags flags
  | object ident => [7, spellIdent ident]
  | sharedSource => [8]
  | mode m => [9, spellMode m]
  | serverType t => [10, spellServerType t]
  | clusterType t => [11, spellClusterType t]
  | nil => [12]
  | pair head tail => 13 :: spell head ++ spell tail
  | labels ks => 14 :: spell ks
  | server ks => 15 :: spell ks
  | preference m ks => 16 :: spellMode m :: spell ks

/-- Puts a key into its place in a sorted list. -/
def insertSorted (k : Key) : List Key → List Key
  | [] => [k]
  | j :: js => if precedes k.spell j.spell then k :: j :: js else j :: insertSorted k js

/-- Sorts keys by their spelling. -/
def sorted : List Key → List Key
  | [] => []
  | k :: ks => insertSorted k (sorted ks)

/-- The key of a float: that of the number it stands for. -/
def ofFloat (x : Float) (ident : Ident) : Key :=
  match Binary64.exact x with
  | .nan => nan ident
  | .infinite negative => infinite negative
  | .finite q => number q

/-- The key of a random source: all clusters mean the same one by the shared one. -/
def ofSource (r : RandomSource) : Key :=
  match r.plan with
  | .shared => sharedSource
  | _ => object r.ident

end Key

mutual

/-- The key of a value, if it may be used as one. -/
def Value.key? : Value → Option Key
  | .null => some .null
  | .bool b => some (.number (if b then 1 else 0))
  | .int n => some (.number n.value)
  | .float x ident => some (.ofFloat x ident)
  | .text s => some (.text s)
  | .bytes bs => some (.bytes bs)
  | .list _ _ => none
  | .tuple items => Value.runKey? items
  | .mapping _ => none
  | .regex _ _ => none
  | .compiled p flags => some (.compiled p flags)
  | .label l => Label.key? l
  | .labels s => LabelSet.key? s
  | .server s => Server.key? s
  | .builder b => some (.object b.ident)
  | .cluster c => some (.object c.ident)
  | .preference p => Preference.key? p
  | .average a => some (.object a.ident)
  | .reply r => some (.object r.ident)
  | .settings s => some (.object s.ident)
  | .source r => some (.ofSource r)
  | .stranger ident => some (.object ident)
  | .mode m => some (.mode m)
  | .serverType t => some (.serverType t)
  | .clusterType t => some (.clusterType t)

/-- The key of a run of values. -/
def Value.runKey? : List Value → Option Key
  | [] => some .nil
  | v :: vs =>
    match Value.key? v, Value.runKey? vs with
    | some k, some ks => some (.pair k ks)
    | _, _ => none

/-- The key of a label: that of the pair of its fields. -/
def Label.key? : Label → Option Key
  | ⟨name, value⟩ =>
    match Value.key? name, Value.key? value with
    | some n, some v => some (.pair n (.pair v .nil))
    | _, _ => none

/-- The keys of labels, if all have one. -/
def LabelSet.keysOf? : List Label → Option (List Key)
  | [] => some []
  | l :: ls =>
    match Label.key? l, LabelSet.keysOf? ls with
    | some k, some ks => some (k :: ks)
    | _, _ => none

/-- The key of a label set, the same for every order of its labels. -/
def LabelSet.key? : LabelSet → Option Key
  | ⟨labels⟩ => (LabelSet.keysOf? labels).map fun ks => .labels (.ofList (Key.sorted ks))

/-- The key of a run of label sets. -/
def LabelSet.runKey? : List LabelSet → Option Key
  | [] => some .nil
  | s :: ss =>
    match LabelSet.key? s, LabelSet.runKey? ss with
    | some k, some ks => some (.pair k ks)
    | _, _ => none

/-- The key of a server description: those of all its fields. -/
def Server.key? : Server → Option Key
  | ⟨_, address, reachable, primary, secondary, ping, labels, maxDocumentSize⟩ => do
    let a ← Value.key? address
    let r ← Value.key? reachable
    let p ← Value.key? primary
    let s ← Value.key? secondary
    let n ← Value.key? ping
    let l ← LabelSet.key? labels
    let d ← Value.key? maxDocumentSize
    return .server (.ofList [a, r, p, s, n, l, d])

/-- The key of a read preference. -/
def Preference.key? : Preference → Option Key
  | ⟨mode, tagSets⟩ => (LabelSet.runKey? tagSets).map (.preference mode)

end

/-- Whether a value may be used as a key. -/
def Value.isHashable (v : Value) : Bool := v.key?.isSome

/-- Whether two values fall together as keys, if both may be used as one. -/
def Value.sharesKey? (a b : Value) : Option Bool := do
  let k ← a.key?
  let l ← b.key?
  return k == l

/-- The keys of the labels of a set, in order. -/
def LabelSet.keys (s : LabelSet) : List (Option Key) := s.labels.map Label.key?

/-- Whether the slot is the one of a key. -/
def Slot.isAt (k : Key) (s : Slot) : Bool := s.key.key? == some k

/-- What a mapping stores under a key. -/
def Mapping.lookup? (m : Mapping) (k : Key) : Option Value :=
  (m.slots.find? (Slot.isAt k)).bind (·.value)

/-- The keys under which a mapping stores something. -/
def Mapping.keys (m : Mapping) : List (Option Key) := m.entries.map fun e => e.1.key?

end ReadRouting
