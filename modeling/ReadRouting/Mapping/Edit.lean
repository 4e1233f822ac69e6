import ReadRouting.Value.Equality

set_option autoImplicit false
set_option relaxedAutoImplicit false

/-!
# Editing mappings

Setting, looking up and removing entries. A key keeps the place, and the way of writing it, of
the first time it was set; once removed and set again it moves to the end.

Every edit yields the mapping as it is afterwards, also when it fails. A mapping that keeps an
order of its own notes the place of a key before it looks whether anything can be stored under
it; so a failed `set` may leave a key in the order with no value.

## Main definitions

* `ReadRouting.Editing` — a computation on a mapping that may fail half way.
* `ReadRouting.Mapping.set`, `ReadRouting.Mapping.erase` — set and remove an entry.
* `ReadRouting.Mapping.fetch`, `ReadRouting.Mapping.getD` — what is stored under a key.
* `ReadRouting.Value.fetch` — the same for a sequence too, by position.
* `ReadRouting.Mapping.put`, `setDefault`, `pop`, `popItem`, `update`, `clear` — the edits
  composed of these.
* `ReadRouting.Mapping.ofData` — a new mapping from pairs or another mapping.

## Main results

* `ReadRouting.Mapping.lookup?_store_self`, `ReadRouting.Mapping.lookup?_store_of_ne` — what is
  found after storing.

## Implementation notes

A mapping with an order of its own, of kind `ordered` or `document`, is the ordered dictionary `SON`
of the document format, which belongs to the library of that format and not to read routing. What is
taken over of it is that it keeps a list of its keys beside a plain dictionary:

* `ReadRouting.Mapping.set` looks for the key in the list, notes it at the end if it is not there,
  and then stores under it;
* `ReadRouting.Mapping.erase` takes the key out of the list, where a missing one is ill-formed, and
  then out of the dictionary;
* looking up, `pop` and `setDefault` go to the dictionary first, so that a key that cannot be stored
  under fails as such;
* `popItem` takes the first entry, where a plain mapping takes the last one;
* `update` takes null for nothing, and keeps what was stored before a pair that is none;
* a copy is no document, even of a document.

The list and the dictionary are one list of slots here, in which a slot without a value stands for a
key that is noted and stores nothing.
-/

namespace ReadRouting

/-- A computation on a mapping, whose state is kept when it fails. -/
abbrev Editing := ExceptT Fault (StateM Mapping)

/-- A check that edits nothing. -/
def Editing.ofChecked {α : Type} (c : Checked α) : Editing α := ExceptT.mk (pure c)

namespace Mapping

/-- A new mapping with nothing in it. -/
def empty (kind : MappingKind) : Mapping := ⟨kind, none, []⟩

/-- Replaces what the slot of a key stores, or adds a slot at the end. -/
def storeSlots (k : Key) (name v : Value) : List Slot → List Slot
  | [] => [⟨name, some v⟩]
  | s :: rest => if s.isAt k then ⟨s.key, some v⟩ :: rest else s :: storeSlots k name v rest

/-- Stores a value under a key. -/
def store (m : Mapping) (k : Key) (name v : Value) : Mapping :=
  { m with slots := storeSlots k name v m.slots }

/-- After storing, the slot of the key holds the new value under the name it had before. -/
theorem find?_storeSlots_self (k : Key) (name v : Value) (h : name.key? = some k)
    (slots : List Slot) :
    (storeSlots k name v slots).find? (Slot.isAt k) =
      some ⟨((slots.find? (Slot.isAt k)).map (·.key)).getD name, some v⟩ := by
  induction slots with
  | nil => simp [storeSlots, Slot.isAt, h]
  | cons s rest ih =>
    cases found : s.isAt k with
    | true =>
      have new : Slot.isAt k ⟨s.key, some v⟩ = true := found
      simp [storeSlots, found, new]
    | false => simp [storeSlots, found, ih]

/-- Storing leaves the slots of other keys alone. -/
theorem find?_storeSlots_of_ne {k l : Key} (ne : l ≠ k) {name : Value} (v : Value)
    (h : name.key? = some k) (slots : List Slot) :
    (storeSlots k name v slots).find? (Slot.isAt l) = slots.find? (Slot.isAt l) := by
  induction slots with
  | nil => simp [storeSlots, Slot.isAt, h, Ne.symm ne]
  | cons s rest ih =>
    cases found : s.isAt k with
    | true =>
      have key : s.key.key? = some k := by simpa [Slot.isAt] using found
      have new : Slot.isAt l ⟨s.key, some v⟩ = false := by simp [Slot.isAt, key, Ne.symm ne]
      have old : s.isAt l = false := by simp [Slot.isAt, key, Ne.symm ne]
      simp [storeSlots, found, new, old]
    | false => simp [storeSlots, found, ih, List.find?_cons]

/-- What was stored is found. -/
theorem lookup?_store_self (m : Mapping) (k : Key) (name v : Value) (h : name.key? = some k) :
    (m.store k name v).lookup? k = some v := by
  simp [lookup?, store, find?_storeSlots_self k name v h]

/-- Under every other key the same is found as before. -/
theorem lookup?_store_of_ne (m : Mapping) {k l : Key} (ne : l ≠ k) (name v : Value)
    (h : name.key? = some k) : (m.store k name v).lookup? l = m.lookup? l := by
  simp [lookup?, store, find?_storeSlots_of_ne ne v h]

/-- Removes the slot of a key. -/
def removeSlot (k : Key) : List Slot → List Slot
  | [] => []
  | s :: rest => if s.isAt k then rest else s :: removeSlot k rest

/-- The slots without the first one whose name equals a given one, if there is one. -/
def withoutName? (name : Value) : List Slot → Checked (Option (List Slot))
  | [] => .ok none
  | s :: rest => do
    if ← s.key.heldEquals name then return some rest
    else return (← withoutName? name rest).map (s :: ·)

/-- Stores a value under a key. Where that cannot be done, a mapping with an order of its own
has noted the place of the key. -/
def set (name v : Value) : Editing Unit := do
  let m ← get
  match name.key? with
  | some k => modify (·.store k name v)
  | none =>
    if m.kind != .plain then
      if !(← Editing.ofChecked (name.isAmong m.order)) then
        modify fun m => { m with slots := m.slots ++ [⟨name, none⟩] }
    throw .unsupported

/-- Removes the entry of a key. A mapping with an order of its own looks for the place of the
key first, and removes that. -/
def erase (name : Value) : Editing Unit := do
  let m ← get
  match name.key? with
  | some k =>
    if m.slots.any (Slot.isAt k) then
      modify fun m => { m with slots := removeSlot k m.slots }
    else
      throw (if m.kind = .plain then .missingKey else .illFormed)
  | none =>
    if m.kind = .plain then throw .unsupported
    match ← Editing.ofChecked (withoutName? name m.slots) with
    | none => throw .illFormed
    | some rest => do
      modify fun m => { m with slots := rest }
      throw .unsupported

/-- What is stored under a key. -/
def fetch (m : Mapping) (name : Value) : Checked Value :=
  match name.key? with
  | none => .error .unsupported
  | some k =>
    match m.lookup? k with
    | some v => .ok v
    | none => .error .missingKey

/-- What is stored under a key, or else a default. -/
def getD (m : Mapping) (name fallback : Value) : Checked Value :=
  match m.fetch name with
  | .error .missingKey => .ok fallback
  | r => r

/-- Stores a value under a key and yields what was stored there before, or null. -/
def put (name v : Value) : Editing Value := do
  let old ← Editing.ofChecked ((← get).getD name .null)
  set name v
  return old

/-- What is stored under a key; a default is stored there first if nothing is. -/
def setDefault (name v : Value) : Editing Value := do
  match (← get).fetch name with
  | .ok old => return old
  | .error .missingKey => do
    set name v
    return v
  | .error e => throw e

/-- What is stored under a key that is to be removed. A plain mapping with nothing in it does
not look at the key. -/
def fetchToRemove (m : Mapping) (name : Value) : Checked Value :=
  if m.kind = .plain && m.slots.isEmpty then .error .missingKey else m.fetch name

/-- Removes the entry of a key and yields what was stored there, or else a default. -/
def pop (name : Value) (fallback : Option Value) : Editing Value := do
  match (← get).fetchToRemove name, fallback with
  | .ok old, _ => do
    erase name
    return old
  | .error .missingKey, some v => return v
  | .error e, _ => throw e

/-- Removes an entry and yields it: the first of a mapping with an order of its own, the last
of a plain one. -/
def popItem : Editing (Value × Value) := do
  let m ← get
  match if m.kind = .plain then m.entries.getLast? else m.entries.head? with
  | none => throw .missingKey
  | some (name, v) => do
    erase name
    return (name, v)

/-- Stores pairs one after the other. -/
def setAll : List (Value × Value) → Editing Unit
  | [] => pure ()
  | (name, v) :: rest => do
    set name v
    setAll rest

/-- Stores what should be pairs one after the other, up to the first that is none. -/
def setPairs : List Value → Editing Unit
  | [] => pure ()
  | item :: rest => do
    let (name, v) ← Editing.ofChecked item.pair
    set name v
    setPairs rest

/-- Stores the entries of another mapping, or pairs; null stands for none, but not for a plain
mapping. -/
def update (other : Value) : Editing Unit := do
  match other with
  | .mapping n => setAll n.entries
  | .null => if (← get).kind = .plain then throw .unsupported
  | _ => do setPairs (← Editing.ofChecked other.items)

/-- Removes everything. -/
def clear : Editing Unit := modify fun m => { m with slots := [] }

/-- A new mapping of a kind, with the entries of a mapping or of pairs. -/
def ofData (kind : MappingKind) (data : Value) : Checked Mapping :=
  match (update data).run.run (empty kind) with
  | (.ok (), m) => .ok m
  | (.error e, _) => .error e

/-- A new mapping with given entries, of which a later one replaces an earlier one of the same
key. -/
def ofEntries (kind : MappingKind) (entries : List (Value × Value)) : Checked Mapping :=
  match (setAll entries).run.run (empty kind) with
  | (.ok (), m) => .ok m
  | (.error e, _) => .error e

/-- A copy that shares the values. What is copied from a mapping with an order of its own is
no document, though it keeps its order. -/
def copy (m : Mapping) : Mapping :=
  { kind := if m.kind = .plain then .plain else .ordered
    ident := none
    slots := m.slots.filter fun s => s.value.isSome }

end Mapping

/-- What a mapping stores under a key, or a sequence holds at a position. -/
def Value.fetch (v key : Value) : Checked Value :=
  match v with
  | .mapping m => m.fetch key
  | _ => v.itemAt key

mutual

/-- A value with all mappings in it replaced by plain ones, and its lists by copies. -/
def Value.plainCopy : Value → Value
  | .list _ xs => .list none (Value.plainCopies xs)
  | .mapping m => .mapping (Mapping.plainCopy m)
  | v => v
termination_by structural v => v

/-- The plain copies of several values. -/
def Value.plainCopies : List Value → List Value
  | [] => []
  | v :: vs => Value.plainCopy v :: Value.plainCopies vs
termination_by structural vs => vs

/-- The plain copies of the slots that store something. -/
def Slot.plainCopies : List Slot → List Slot
  | [] => []
  | ⟨_, none⟩ :: rest => Slot.plainCopies rest
  | ⟨key, some v⟩ :: rest => ⟨key, some (Value.plainCopy v)⟩ :: Slot.plainCopies rest
termination_by structural slots => slots

/-- The plain copy of a mapping, in depth. -/
def Mapping.plainCopy : Mapping → Mapping
  | ⟨_, _, slots⟩ => ⟨.plain, none, Slot.plainCopies slots⟩
termination_by structural m => m

end

end ReadRouting
