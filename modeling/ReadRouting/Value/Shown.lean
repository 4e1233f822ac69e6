import ReadRouting.Event
import ReadRouting.Number.Shortest
import ReadRouting.Server.Role
import ReadRouting.Text.Numeral
import ReadRouting.Text.Quoted
import ReadRouting.Value.Key
import ReadRouting.Value.Number

set_option autoImplicit false
set_option relaxedAutoImplicit false

/-!
# How values are shown

The text of a value inside messages: texts between quotes, containers with their items shown
in order, label sets as mappings, servers and clusters in a short form in angle brackets.

Showing may fail, since the address of a server can be anything, and it may record an event,
since showing a cluster asks for its primary.

## Main definitions

* `ReadRouting.Value.shown` — the text of a value.
* `ReadRouting.Value.displayed` — the same, but a text is left without quotes.
* `ReadRouting.Server.endpoint` — the address of a server, `host:port`.
* `ReadRouting.Cluster.warnIfSplit` — records a cluster's several reachable primaries.
-/

namespace ReadRouting

/-- Texts joined with a comma and a blank. -/
def commaSeparated (texts : List String) : String := String.intercalate ", " texts

/-- The canonical name of a mode, by which documents refer to it. -/
def Mode.name : Mode → String
  | .primary => "primary"
  | .secondary => "secondary"
  | .primaryPreferred => "primaryPreferred"
  | .secondaryPreferred => "secondaryPreferred"
  | .nearest => "nearest"

/-- The name of a mode as one of the types of mode. -/
def Mode.typeName : Mode → String
  | .primary => "Primary"
  | .secondary => "Secondary"
  | .primaryPreferred => "PrimaryPreferred"
  | .secondaryPreferred => "SecondaryPreferred"
  | .nearest => "Nearest"

/-- The name of a server type. -/
def ServerType.name : ServerType → String
  | .unknown => "Unknown"
  | .router => "Mongos"
  | .primary => "RSPrimary"
  | .secondary => "RSSecondary"
  | .arbiter => "RSArbiter"
  | .other => "RSOther"
  | .ghost => "RSGhost"
  | .standalone => "Standalone"

/-- The name of a cluster type. -/
def ClusterType.name : ClusterType → String
  | .noPrimary => "ReplicaSetNoPrimary"
  | .withPrimary => "ReplicaSetWithPrimary"
  | .unknown => "Unknown"

/-- How a type is shown, by where it is found and its name. -/
def typeShown (path name : String) : String := "<class '" ++ path ++ "." ++ name ++ "'>"

/-- The flags of a pattern as one number. -/
def PatternFlags.bits (f : PatternFlags) : Nat :=
  [(f.ignoreCase, 2), (f.locale, 4), (f.multiline, 8), (f.dotAll, 16), (f.unicode, 32),
    (f.verbose, 64), (f.ascii, 256)].foldl (fun n b => if b.1 then n + b.2 else n) 0

/-- The names of the flags of a compiled pattern; that it is made of characters goes without
saying. -/
def PatternFlags.names (f : PatternFlags) (p : Pattern) : List String :=
  let implied := match p with
    | .text _ => f.unicode && !f.locale && !f.ascii
    | .bytes _ => false
  [(f.ignoreCase, "re.IGNORECASE"), (f.locale, "re.LOCALE"), (f.multiline, "re.MULTILINE"),
    (f.dotAll, "re.DOTALL"), (f.unicode && !implied, "re.UNICODE"), (f.verbose, "re.VERBOSE"),
    (f.ascii, "re.ASCII")].filterMap fun b => if b.1 then some b.2 else none

/-- A pattern between quotes. -/
def Pattern.shown : Pattern → String
  | .text s => Text.quoted s
  | .bytes bs => Text.quotedBytes bs

/-- How a compiled pattern is shown: at most 200 characters of it, and its flags. -/
def compiledShown (p : Pattern) (flags : PatternFlags) : String :=
  let names := flags.names p
  "re.compile(" ++ String.ofList (p.shown.toList.take 200) ++
    (if names.isEmpty then "" else ", " ++ String.intercalate "|" names) ++ ")"

/-- How an integer is shown; one that is too long for a numeral cannot be. -/
def integerShown (n : Int) : Checked String :=
  match Text.writeInteger? n with
  | some s => .ok s
  | none => .error .illFormed

/-- A text between a pair of brackets. -/
def bracketed (opening body closing : String) : String := opening ++ body ++ closing

/-- How a tuple of shown items is shown: a single item is followed by a comma. -/
def tupleShown : List String → String
  | [x] => bracketed "(" x ",)"
  | xs => bracketed "(" (commaSeparated xs) ")"

/-- How a mapping of shown keys and values is shown. -/
def entriesShown (entries : List (String × String)) : String :=
  bracketed "\x7b" (commaSeparated (entries.map fun e => e.1 ++ ": " ++ e.2)) "\x7d"

/-- How a mapping that keeps its order is shown, as its kind and the list of its entries. -/
def orderedShown (kind : String) (entries : List (String × String)) : String :=
  bracketed (kind ++ "([")
    (commaSeparated (entries.map fun e => bracketed "(" (e.1 ++ ", " ++ e.2) ")")) "])"

/-- Runs the two halves of each entry in order. -/
def collectEntries : List (Recorded String × Recorded String) →
    Recorded (List (String × String))
  | [] => pure []
  | (k, v) :: rest => do
    let key ← k
    let value ← v
    let entries ← collectEntries rest
    return (key, value) :: entries

/-- Puts a value under a key: an entry with that key keeps its place and its way of writing
the key. -/
def putEntry {α β : Type} (k : Option Key) (name : α) (value : β) :
    List (Option Key × α × β) → List (Option Key × α × β)
  | [] => [(k, name, value)]
  | e :: es => if e.1 = k then (k, e.2.1, value) :: es else e :: putEntry k name value es

/-- The entries that remain when later ones replace earlier ones of the same key. -/
def collapse {α β : Type} (entries : List (Option Key × α × β)) : List (α × β) :=
  (entries.foldl (fun es e => putEntry e.1 e.2.1 e.2.2 es) []).map (·.2)

/-- The first two items of an address, for those that are looked up by position. -/
def firstTwo {α : Type} (xs : List α) : Checked (α × α) :=
  match xs with
  | a :: b :: _ => .ok (a, b)
  | _ => .error .outOfRange

/-- What stands under the key `n` among entries that are in the order of a mapping. -/
def underNumber {α : Type} (n : Nat) (entries : List (Option Key × α)) : Checked α :=
  match entries.find? fun e => e.1 == some (.number n) with
  | some e => .ok e.2
  | none => .error .missingKey

/-- Records the reachable primaries of a cluster, given how their addresses are shown, if there
are several. -/
def warnOfSeveral (endpoints : List (Recorded String)) : Recorded Unit := do
  if 2 ≤ endpoints.length then
    let texts ← Recorded.collect endpoints
    record (.severalPrimaries texts.length (commaSeparated texts))

/-- How a value is shown in a running text, given how it is shown elsewhere: a text stands
without quotes. -/
def Value.displayedOr (v : Value) (shown : Recorded String) : Recorded String :=
  match v with
  | .text s => pure s
  | _ => shown

mutual

/-- How a value is shown. -/
def Value.shown : Value → Recorded String
  | .null => pure "None"
  | .bool b => pure (if b then "True" else "False")
  | .int n => Recorded.ofChecked (integerShown n.value)
  | .float x _ => pure (Binary64.text x)
  | .text s => pure (Text.quoted s)
  | .bytes bs => pure (Text.quotedBytes bs)
  | .list _ xs => do
    let items ← Recorded.collect (Value.allShown xs)
    return bracketed "[" (commaSeparated items) "]"
  | .tuple xs => do
    let items ← Recorded.collect (Value.allShown xs)
    return tupleShown items
  | .mapping m => Mapping.shown m
  | .regex p flags => pure ("Regex(" ++ p.shown ++ ", " ++ toString flags.bits ++ ")")
  | .compiled p flags => pure (compiledShown p flags)
  | .label l => Label.shown l
  | .labels s => do
    let body ← LabelSet.asMapping s
    return "LabelSet(" ++ body ++ ")"
  | .server s => Server.shown s
  | .builder _ => pure "<server builder>"
  | .cluster c => Cluster.shown c
  | .preference p => Preference.shown p
  | .average _ => pure "<moving average>"
  | .reply _ => pure "<reply>"
  | .settings _ => pure "<settings>"
  | .source _ => pure "<random source>"
  | .stranger _ => pure "<object>"
  | .mode m => pure (typeShown "replica_routing.read_preferences.Mode" m.typeName)
  | .serverType t => pure (typeShown "replica_routing.ismaster.ServerType" t.name)
  | .clusterType t =>
    pure (typeShown "replica_routing.cluster_description.ClusterType" t.name)
termination_by structural v => v

/-- How each of several values is shown. -/
def Value.allShown : List Value → List (Recorded String)
  | [] => []
  | v :: vs => Value.shown v :: Value.allShown vs
termination_by structural vs => vs

/-- How each of several values is displayed: a text stands without quotes. -/
def Value.allDisplayed : List Value → List (Recorded String)
  | [] => []
  | v :: vs => v.displayedOr (Value.shown v) :: Value.allDisplayed vs
termination_by structural vs => vs

/-- How keys and values of a mapping's slots are shown. -/
def Slot.allShown : List Slot → List (Recorded String × Option (Recorded String))
  | [] => []
  | ⟨key, none⟩ :: rest => (Value.shown key, none) :: Slot.allShown rest
  | ⟨key, some v⟩ :: rest => (Value.shown key, some (Value.shown v)) :: Slot.allShown rest
termination_by structural slots => slots

/-- How the values of a mapping's slots are displayed. -/
def Slot.allDisplayed : List Slot → List (Option Key × Recorded String)
  | [] => []
  | ⟨_, none⟩ :: rest => Slot.allDisplayed rest
  | ⟨key, some v⟩ :: rest =>
    (key.key?, v.displayedOr (Value.shown v)) :: Slot.allDisplayed rest
termination_by structural slots => slots

/-- How a mapping is shown. An ordered one shows every key of its order, and cannot be shown
if nothing is stored under one of them. -/
def Mapping.shown : Mapping → Recorded String
  | ⟨kind, _, slots⟩ =>
    let parts := Slot.allShown slots
    let entries := parts.filterMap fun p => p.2.map (p.1, ·)
    match kind with
    | .plain => do
      return entriesShown (← collectEntries entries)
    | .document => do
      return orderedShown "Document" (← collectEntries entries)
    | .ordered => do
      let all := parts.map fun p => (p.1, p.2.getD (Recorded.ofChecked (.error .unsupported)))
      return orderedShown "SON" (← collectEntries all)
termination_by structural m => m

/-- How a label is shown. -/
def Label.shown : Label → Recorded String
  | ⟨name, value⟩ => do
    let n ← Value.shown name
    let v ← Value.shown value
    return "Label(name=" ++ n ++ ", value=" ++ v ++ ")"
termination_by structural l => l

/-- How names and values of labels are shown, with the keys of the names. -/
def Label.allShown : List Label → List (Option Key × Recorded String × Recorded String)
  | [] => []
  | ⟨name, value⟩ :: rest =>
    (name.key?, Value.shown name, Value.shown value) :: Label.allShown rest
termination_by structural ls => ls

/-- How a label set is shown as a mapping: of the labels of one name the last counts. -/
def LabelSet.asMapping : LabelSet → Recorded String
  | ⟨labels⟩ => do
    return entriesShown (← collectEntries (collapse (Label.allShown labels)))
termination_by structural s => s

/-- How each of several label sets is shown as a mapping. -/
def LabelSet.allAsMappings : List LabelSet → List (Recorded String)
  | [] => []
  | s :: ss => LabelSet.asMapping s :: LabelSet.allAsMappings ss
termination_by structural ss => ss

/-- How a server description is shown: the first two items of its address, whatever that is,
its role, and its ping time without a fraction. -/
def Server.shown : Server → Recorded String
  | ⟨ident, address, reachable, primary, secondary, ping, labels, maxDocumentSize⟩ => do
    let s : Server :=
      ⟨ident, address, reachable, primary, secondary, ping, labels, maxDocumentSize⟩
    let (first, second) ← Recorded.ofChecked <|
      match address with
      | .text s =>
        firstTwo (s.toList.map fun c => (pure (String.singleton c) : Recorded String))
      | .bytes bs =>
        firstTwo (bs.map fun b => (pure (toString b.toNat) : Recorded String))
      | .list _ xs => firstTwo (Value.allDisplayed xs)
      | .tuple xs => firstTwo (Value.allDisplayed xs)
      | .label ⟨name, value⟩ =>
        firstTwo [name.displayedOr (Value.shown name), value.displayedOr (Value.shown value)]
      | .mapping ⟨_, _, slots⟩ => do
        let entries := Slot.allDisplayed slots
        let a ← underNumber 0 entries
        let b ← underNumber 1 entries
        return (a, b)
      | _ => .error .unsupported
    let host ← first
    let port ← second
    let nanos ← Recorded.ofChecked do
      integerShown (← (← ping.number).truncate)
    return "<ServerDescription \"" ++ host ++ ":" ++ port ++ "\" " ++ s.serverType.name ++
      " ping=" ++ nanos ++ "ns>"
termination_by structural s => s

/-- The address of a server as `host:port`, for an address that is a pair. -/
def Server.endpoint : Server → Recorded String
  | ⟨_, address, _, _, _, _, _, _⟩ =>
    let whole := address.displayedOr (Value.shown address)
    match address with
    | .tuple xs => do
      let parts ← Recorded.collect ((Value.allDisplayed xs).take 2)
      match xs with
      | [_, _] => return String.intercalate ":" parts
      | _ => throw .unsupported
    | .label ⟨name, value⟩ => do
      let host ← name.displayedOr (Value.shown name)
      let port ← value.displayedOr (Value.shown value)
      return host ++ ":" ++ port
    | _ => do
      let _ ← whole
      throw .unsupported
termination_by structural s => s

/-- The addresses of those of several members that are reachable primaries. -/
def Server.primaryEndpoints : List Value → List (Recorded String)
  | [] => []
  | v :: vs =>
    match v with
    | .server s =>
      if s.servesAsPrimary then Server.endpoint s :: Server.primaryEndpoints vs
      else Server.primaryEndpoints vs
    | _ => Server.primaryEndpoints vs
termination_by structural vs => vs

/-- How a cluster is shown: its type and its members. -/
def Cluster.shown : Cluster → Recorded String
  | ⟨ident, members, latency, source⟩ => do
    let servers ← Recorded.ofChecked (Cluster.servers ⟨ident, members, latency, source⟩)
    warnOfSeveral (Server.primaryEndpoints members)
    let items ← Recorded.collect (Value.allShown members)
    return "<ClusterDescription " ++ (Server.clusterType servers).name ++ " members=" ++
      bracketed "[" (commaSeparated items) "]" ++ ">"
termination_by structural c => c

/-- How a read preference is shown: its mode's name and its tag sets. -/
def Preference.shown : Preference → Recorded String
  | ⟨mode, tagSets⟩ => do
    let sets ← Recorded.collect (LabelSet.allAsMappings tagSets)
    return mode.name ++ "(tag_sets=" ++ bracketed "[" (commaSeparated sets) "]" ++ ")"
termination_by structural p => p

end

/-- How a value is shown in a running text: a text stands without quotes. -/
def Value.displayed (v : Value) : Recorded String := v.displayedOr v.shown

/-- Records that a cluster has several reachable primaries, if it has. -/
def Cluster.warnIfSplit (c : Cluster) : Recorded Unit :=
  warnOfSeveral (Server.primaryEndpoints c.members)

/-- The text of an event. -/
def Event.text : Event → Recorded String
  | .severalPrimaries count endpoints =>
    pure ("Cluster description has " ++ toString count ++ " reachable primaries: " ++ endpoints)
  | .noneEligible p => do
    return "No member matches read preference " ++ (← p.shown)

end ReadRouting
