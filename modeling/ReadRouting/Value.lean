set_option autoImplicit false
set_option relaxedAutoImplicit false

/-!
# Values

Documents are schemaless, and so are the arguments that callers hand over: a field meant for
a latency may hold a text, a list of tag sets may hold a server. `ReadRouting.Value` is the
type of everything that can stand in such a place. The domain's own nouns — labels, servers,
clusters, read preferences, ... — are structures of their own, defined together with it
because each may occur inside the others.

## Main definitions

* `ReadRouting.Value` — a value.
* `ReadRouting.Mapping` — an ordered mapping: plain, ordered, or a document.
* `ReadRouting.Label`, `ReadRouting.LabelSet` — one tag of a replica set member, and a
  collection of them in the order given.
* `ReadRouting.Server`, `ReadRouting.ServerBuilder` — the description of one server, and one
  in the making.
* `ReadRouting.Cluster` — a snapshot of the servers known.
* `ReadRouting.Preference` — a read preference: a mode and tag sets in the order tried.
* `ReadRouting.MovingAverage`, `ReadRouting.Reply`, `ReadRouting.Settings`,
  `ReadRouting.RandomSource` — round trip times, a server's reply to a health check, the
  selection settings, and what ties are broken with.

## Implementation notes

Two values may be equal and yet be different objects, and some objects change while others
refer to them. Whatever can be told apart from an equal one carries an `Ident`. One that was
just made carries none; it is numbered when it is first bound to a name.
-/

namespace ReadRouting

/-- What tells an object apart from an equal one; `none` for one that was just made. -/
abbrev Ident := Option Nat

/-- Whether two numbers denote one and the same object. -/
def Ident.same (a b : Ident) : Bool := a.isSome && a == b

/-- An integer. The mark says that it is kept in 64 bits by the document format; it computes
and compares as any other, and the result of a computation is unmarked. -/
structure Integer where
  value : Int
  long : Bool := false
  deriving DecidableEq

/-- The pattern of a regular expression is a text or a byte string. -/
inductive Pattern
  | text (s : String)
  | bytes (bs : List UInt8)
  deriving DecidableEq

/-- The flags of a regular expression: those that are named by a letter. No others can be written
down with an expression, so that numbers which stand for further ones are left out here. -/
structure PatternFlags where
  ascii : Bool := false
  ignoreCase : Bool := false
  locale : Bool := false
  multiline : Bool := false
  dotAll : Bool := false
  unicode : Bool := false
  verbose : Bool := false
  deriving DecidableEq

/-- What a read preference asks for. -/
inductive Mode
  | primary
  | secondary
  | primaryPreferred
  | secondaryPreferred
  | nearest
  deriving DecidableEq

/-- The role a server reports in its reply to a health check. -/
inductive ServerType
  | unknown
  | router
  | primary
  | secondary
  | arbiter
  | other
  | ghost
  | standalone
  deriving DecidableEq

/-- What is known of a cluster as a whole. -/
inductive ClusterType
  | noPrimary
  | withPrimary
  | unknown
  deriving DecidableEq

/-- How a random source answers a draw: `shared` is the one that all clusters use unless they
are given another; `fixed` always takes the same position, counted from the end if negative;
`cycle` takes the listed positions in turn, modulo the number of candidates. -/
inductive DrawPlan
  | shared
  | fixed (position : Int)
  | cycle (positions : List Int)
  deriving DecidableEq

/-- A source of randomness for breaking ties. -/
structure RandomSource where
  ident : Ident := none
  plan : DrawPlan
  deriving DecidableEq

/-- The source that clusters share unless they are given their own. -/
def RandomSource.default : RandomSource := ⟨none, .shared⟩

/-- An address that has been checked: a host and a port. -/
structure Address where
  host : String
  port : Integer
  deriving DecidableEq

/-- The selection settings: the latency window in milliseconds and, if one was given, the
source of randomness. -/
structure Settings where
  ident : Ident := none
  latency : Integer
  source : Option RandomSource
  deriving DecidableEq

/-- The kinds of mapping. An `ordered` mapping compares with its like in order; a `document`
compares with every mapping by structure, see `ReadRouting.Value.alike`. -/
inductive MappingKind
  | plain
  | ordered
  | document
  deriving DecidableEq

mutual

/-- Anything that a document field or an argument can hold. -/
inductive Value
  | null
  | bool (b : Bool)
  | int (n : Integer)
  | float (x : Float) (ident : Ident)
  | text (s : String)
  | bytes (bs : List UInt8)
  | list (ident : Ident) (items : List Value)
  | tuple (items : List Value)
  | mapping (m : Mapping)
  | regex (p : Pattern) (flags : PatternFlags)
  | compiled (p : Pattern) (flags : PatternFlags)
  | label (l : Label)
  | labels (s : LabelSet)
  | server (s : Server)
  | builder (b : ServerBuilder)
  | cluster (c : Cluster)
  | preference (p : Preference)
  | average (a : MovingAverage)
  | reply (r : Reply)
  | settings (s : Settings)
  | source (r : RandomSource)
  /-- An object that nothing is known of. -/
  | stranger (ident : Ident)
  | mode (m : Mode)
  | serverType (t : ServerType)
  | clusterType (t : ClusterType)

/-- One place in the order of a mapping: a key and what is stored under it. A key for which
nothing could be stored keeps its place in the order, with no value. -/
structure Slot where
  key : Value
  value : Option Value

/-- A mapping, in the order in which its keys were first set. -/
structure Mapping where
  kind : MappingKind
  ident : Ident
  slots : List Slot

/-- One name/value tag of a replica set member. -/
structure Label where
  name : Value
  value : Value

/-- A collection of labels in the order given; duplicates are kept. -/
structure LabelSet where
  labels : List Label

/-- The description of one server at one time. All but the labels is kept as it was given. -/
structure Server where
  ident : Ident
  address : Value
  reachable : Value
  primary : Value
  secondary : Value
  ping : Value
  labels : LabelSet
  maxDocumentSize : Value

/-- A server description in the making. -/
structure ServerBuilder where
  ident : Ident
  frozen : Bool
  address : Option Address
  reachable : Bool
  primary : Bool
  secondary : Bool
  ping : Integer
  labels : LabelSet
  maxDocumentSize : Integer

/-- A snapshot of the servers known, in the order in which they were discovered, with the
latency window in milliseconds and the source of randomness. -/
structure Cluster where
  ident : Ident
  members : List Value
  latency : Integer
  source : RandomSource

/-- A read preference: a mode and the tag sets in the order in which they are tried. -/
structure Preference where
  mode : Mode
  tagSets : List LabelSet

/-- An exponentially weighted average and the most recent samples, oldest first. -/
structure MovingAverage where
  ident : Ident
  samples : List Value
  current : Option Value

/-- A server's reply to a health check, classified. -/
structure Reply where
  ident : Ident
  document : Value
  serverType : ServerType

end

instance : Inhabited Value := ⟨.null⟩

namespace Value

/-- The unmarked integer as a value. -/
def ofInt (n : Int) : Value := .int ⟨n, false⟩

/-- A number that was just computed. -/
def ofFloat (x : Float) : Value := .float x none

/-- A list that was just made. -/
def ofList (items : List Value) : Value := .list none items

end Value

/-- A validated address as a value: the pair of its host and port. -/
def Address.toValue (a : Address) : Value := .tuple [.text a.host, .int a.port]

/-- The two fields of a label in order. -/
def Label.fields (l : Label) : List Value := [l.name, l.value]

/-- The collection without labels. -/
def LabelSet.empty : LabelSet := ⟨[]⟩

/-- The keys of a mapping under which something is stored, with what is stored. -/
def Mapping.entries (m : Mapping) : List (Value × Value) :=
  m.slots.filterMap fun s => s.value.map (s.key, ·)

/-- All keys in order, those under which nothing could be stored included. -/
def Mapping.order (m : Mapping) : List Value := m.slots.map (·.key)

end ReadRouting
