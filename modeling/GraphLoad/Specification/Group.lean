import GraphLoad.Cypher.RelationshipBatch

/-!
What a caller asks to be written: groups of nodes that share labels and a key, and groups of
relationships that share a type and endpoints.
-/

namespace GraphLoad

/-- A set of keys, as the ascending list of its members. -/
abbrev KeySet := List String

namespace KeySet

def insert (key : String) : KeySet → KeySet
  | [] => [key]
  | k :: r => if key = k then k :: r else if key < k then key :: k :: r else k :: insert key r

def ofList (keys : List String) : KeySet :=
  keys.foldl (fun set key => insert key set) []

@[simp]
theorem mem_insert {key k : String} {set : KeySet} : k ∈ insert key set ↔ k = key ∨ k ∈ set := by
  induction set with
  | nil => simp [insert]
  | cons l r ih => grind [insert]

@[simp]
theorem mem_ofList {k : String} {keys : List String} : k ∈ ofList keys ↔ k ∈ keys := by
  have key : ∀ set : KeySet,
      k ∈ keys.foldl (fun set key => insert key set) set ↔ k ∈ keys ∨ k ∈ set := by
    induction keys with
    | nil => simp
    | cons l r ih =>
      intro set
      rw [List.foldl_cons, ih]
      grind [mem_insert]
  rw [ofList, key, or_iff_left List.not_mem_nil]

end KeySet

/-- Nodes that share labels and a key. -/
structure NodeGroup where
  /-- The first label is the one that nodes are matched on. -/
  labels : List String
  /-- The property that identifies a node. -/
  key : String
  records : List Record
  excludeKeys : KeySet
  /-- Whether nodes are merged on their key; else each record creates one. -/
  dedupe : Bool
deriving DecidableEq, Repr

/-- Relationships that share a type and the way their ends are found. -/
structure RelationshipGroup where
  type : String
  source : Endpoint
  target : Endpoint
  records : List Record
  excludeKeys : KeySet
  /-- Whether the fields that hold the endpoints stay out of the properties. -/
  autoExcludeKeys : Bool
  /-- Whether relationships are merged; else each record creates one. -/
  dedupe : Bool
deriving DecidableEq, Repr

/-- Everything to be written in one upload. -/
structure Specification where
  nodes : List NodeGroup
  relationships : List RelationshipGroup
deriving DecidableEq, Repr

/-- The two ends of a relationship. -/
inductive Side where
  | source
  | target
deriving DecidableEq, Repr

namespace Side

def opposite : Side → Side
  | source => target
  | target => source

/-- What the end is called in a specification. -/
def fieldName : Side → String
  | source => "from_node"
  | target => "to_node"

end Side

namespace RelationshipGroup

variable (g : RelationshipGroup)

def endpoint : Side → Endpoint
  | .source => g.source
  | .target => g.target

def setEndpoint (e : Endpoint) : Side → RelationshipGroup
  | .source => { g with source := e }
  | .target => { g with target := e }

/-- The keys that no record writes: those asked for, or the record keys of both ends, and for a
dotted one also the top field it leads into. -/
def effectiveExcludeKeys : KeySet :=
  if g.autoExcludeKeys then
    .ofList ([g.source.recordKey, g.target.recordKey].flatMap fun key =>
      match Path.segments key with
      | root :: _ :: _ => [key, root]
      | _ => [key])
  else g.excludeKeys

end RelationshipGroup

def Specification.isEmpty (s : Specification) : Bool :=
  s.nodes.all (·.records.isEmpty) && s.relationships.all (·.records.isEmpty)

end GraphLoad
