import GraphLoad.Proofs.Cypher.NodeReading
import GraphLoad.Proofs.Cypher.RelationshipReading
import GraphLoad.Proofs.Graph.Upsert
import Mathlib.Data.List.Lattice
import Mathlib.Data.List.ProdSigma

/-!
# What statements do to a graph

A graph is a list of nodes with labels and properties and a list of relationships with a type and
properties, each between two nodes by their places in the list. The clauses of a statement are read
into a `Write`, and for each row of its list the statement writes once (`Statement.run?`).

`Write.read?_node` and `Write.read?_relationship` say that the clauses of the statements of batches
are read as what they were written for.
-/

namespace GraphLoad

open Cypher (Lexeme plain)

namespace Graph

/-- A node: its labels, each once, and its properties. -/
@[ext]
structure Node where
  labels : List String
  properties : Fields
deriving DecidableEq, Repr

structure Relationship where
  source : Nat
  target : Nat
  type : String
  properties : Fields
deriving DecidableEq, Repr

end Graph

structure Graph where
  nodes : List Graph.Node
  relationships : List Graph.Relationship
deriving DecidableEq, Repr

namespace Graph

/-- How nodes are looked for: by the value of a property, and by a label if one is given. -/
structure Pattern where
  label : Option String
  key : String
deriving DecidableEq, Repr

/-- The value under which a pattern finds a node, if it does at all. -/
def Pattern.value? (p : Pattern) (n : Node) : Option Json :=
  if ∀ label ∈ p.label, label ∈ n.labels then Fields.get? n.properties p.key else none

def places (g : Graph) (p : Pattern) (value : Json) : List Nat :=
  g.nodes.findIdxs fun n => p.value? n = some value

/-- The node with properties written over its own and labels added. -/
def Node.set (labels : List String) (properties : Fields) (n : Node) : Node where
  labels := labels ∪ n.labels
  properties := Fields.insertAll n.properties properties

/-- The relationship with properties written over its own. -/
def Relationship.set (properties : Fields) (r : Relationship) : Relationship :=
  { r with properties := Fields.insertAll r.properties properties }

/-- Nodes are merged on a label and the value of a property. -/
def merging (label key : String) (others : List String) : Upsert Node Json Fields where
  key := Pattern.value? ⟨some label, key⟩
  fresh value := ⟨[label], [(key, value)]⟩
  change := Node.set others

/-- Relationships of a type are merged on the places of their nodes. -/
def relating (type : String) : Upsert Relationship (Nat × Nat) Fields where
  key r := if r.type = type then some (r.source, r.target) else none
  fresh ends := ⟨ends.1, ends.2, type, []⟩
  change := Relationship.set

end Graph

/-- What the clauses of a statement ask for. -/
inductive Write where
  /-- Nodes are found by a label and the value of a property, or added. They get further labels. -/
  | mergeNode (label key : String) (others : List String)
  | createNode (label : String) (others : List String)
  /-- Relationships of a type are found between the nodes of two patterns, or added. -/
  | mergeRelationship (source target : Graph.Pattern) (type : String)
  | createRelationship (source target : Graph.Pattern) (type : String)
deriving DecidableEq, Repr

namespace Write

open GraphLoad.Graph

/-- The pairs of nodes that a row relates, each with the properties of the row. -/
def related (g : Graph) (source target : Pattern) (v w : Json) (properties : Fields) :
    List ((Nat × Nat) × Fields) :=
  (g.places source v ×ˢ g.places target w).map (·, properties)

/-- The graph behind the write of a row; none if the row has another number of values in front. -/
def run? (w : Write) (g : Graph) (row : Row Json) : Option Graph :=
  match w, row.ends with
  | mergeNode label key others, [v] =>
    some { g with nodes := (merging label key others).write g.nodes (v, row.properties) }
  | createNode label others, [_] =>
    some { g with nodes := g.nodes ++ [Node.set others row.properties ⟨[label], []⟩] }
  | mergeRelationship source target type, [v, w] =>
    some { g with relationships :=
      (relating type).run (related g source target v w row.properties) g.relationships }
  | createRelationship source target type, [v, w] =>
    some { g with relationships := g.relationships ++
      (related g source target v w row.properties).map fun (ends, properties) =>
        Relationship.set properties ⟨ends.1, ends.2, type, []⟩ }
  | _, _ => none

/-! ## Reading clauses -/

def literal? (text : String) (ls : List Lexeme) : Option (List Lexeme) :=
  (plain text).isPrefixOf? ls

def name? : List Lexeme → Option (String × List Lexeme)
  | .name n :: rest => some (n, rest)
  | _ => none

/-- The label of a pattern, if it has one, and what follows. -/
def label? : List Lexeme → Option String × List Lexeme
  | .char ':' :: .name label :: rest => (some label, rest)
  | ls => (none, ls)

def others? : List Lexeme → Option (List String)
  | [] => some []
  | .char '\n' :: .char 'S' :: .char 'E' :: .char 'T' :: .char ' ' :: .char 'n' :: .char ':' ::
      .name label :: rest => (others? rest).map (label :: ·)
  | _ => none

/-- The clause that looks for nodes under a variable, by the value at a position of the row. -/
def pattern? (variableName position : String) (ls : List Lexeme) :
    Option (Pattern × List Lexeme) := do
  let rest ← literal? ("MATCH (" ++ variableName) ls
  let (label, rest) := label? rest
  let (key, rest) ← literal? " \x7b" rest >>= name?
  let rest ← literal? (":tuple[" ++ position ++ "]\x7d)\n") rest
  return (⟨label, key⟩, rest)

def mergeNode? (ls : List Lexeme) : Option Write := do
  let (label, rest) ← literal? "MERGE (n:" ls >>= name?
  let (key, rest) ← literal? " \x7b" rest >>= name?
  let others ← literal? ":node[0]\x7d)" rest >>= literal? "\nSET n += node[1]" >>= others?
  return mergeNode label key others

def createNode? (ls : List Lexeme) : Option Write := do
  let (label, rest) ← literal? "CREATE (n:" ls >>= name?
  let others ← literal? ")" rest >>= literal? "\nSET n += node[1]" >>= others?
  return createNode label others

/-- The clauses that write relationships by a verb. -/
def relationship? (verb : String) (write : Pattern → Pattern → String → Write)
    (ls : List Lexeme) : Option Write := do
  let (source, rest) ← pattern? "fromNode" "0" ls
  let (target, rest) ← pattern? "toNode" "1" rest
  let (type, rest) ← literal? verb rest >>= literal? " (fromNode)-[r:" >>= name?
  let rest ← literal? "]->(toNode)\nSET r += tuple[2]" rest
  if rest.isEmpty then return write source target type else none

/-- What the clauses behind the list ask for. -/
def read? (ls : List Lexeme) : Option Write :=
  match literal? " AS node_data\nUNWIND node_data AS node\n" ls with
  | some rest => (mergeNode? rest).or (createNode? rest)
  | none => do
    let rest ← literal? " AS from_to_data\nUNWIND from_to_data AS tuple\n" ls
    (relationship? "MERGE" mergeRelationship rest).or
      (relationship? "CREATE" createRelationship rest)

end Write

/-- The graph behind a statement: its rows are written one after another. -/
def Statement.run? (g : Graph) (s : Statement) : Option Graph := do
  let reading ← s.reading?
  let write ← Write.read? reading.clauses
  reading.rows.foldlM write.run? g

/-- The graph behind statements, one after another. -/
def Graph.run? (g : Graph) (statements : List Statement) : Option Graph :=
  statements.foldlM Statement.run? g

namespace Write

/-! ## Clauses are read back -/

@[simp]
theorem literal?_append (text : String) (ls : List Lexeme) :
    literal? text (plain text ++ ls) = some ls :=
  Cypher.isPrefixOf?_append_self _ _

@[simp]
theorem literal?_plain (text : String) : literal? text (plain text) = some [] := by
  rw [← List.append_nil (plain text), literal?_append]

@[simp]
theorem others?_lexemes (others : List String) :
    others? (others.flatMap fun other => plain "\nSET n:" ++ [.name other]) = some others := by
  induction others with
  | nil => rfl
  | cons other others ih =>
    show (others? (others.flatMap _)).map (other :: ·) = some (other :: others)
    rw [ih, Option.map_some]

/-- The clauses of a batch of nodes ask for what the batch was made for. -/
theorem read?_node (b : NodeBatch) (label : String) (others : List String) :
    read? (b.clauseLexemes label others) =
      some (if b.dedupe then mergeNode label b.key others else createNode label others) := by
  rw [read?, NodeBatch.clauseLexemes, literal?_append]
  cases b.dedupe with
  | true =>
    simp [mergeNode?, name?]
  | false =>
    have hverb : ∀ ls, literal? "MERGE (n:" (plain "CREATE (n:" ++ ls) = none := fun _ => rfl
    simp [mergeNode?, createNode?, name?, hverb]

def patternOf (e : Endpoint) : Graph.Pattern :=
  ⟨e.label, e.nodeKey⟩

theorem pattern?_lexemes (variableName position : String) (e : Endpoint) (ls : List Lexeme) :
    pattern? variableName position (RelationshipBatch.matchLexemes variableName e position ++ ls) =
      some (patternOf e, ls) := by
  have hlabel : ∀ rest, label? (e.label.toList.flatMap (fun label => [.char ':', .name label]) ++
      (plain " \x7b" ++ rest)) = (e.label, plain " \x7b" ++ rest) := by
    intro rest
    cases e.label <;> rfl
  simp [pattern?, RelationshipBatch.matchLexemes, hlabel, name?, patternOf]

/-- The clauses of a batch of relationships ask for what the batch was made for. -/
theorem read?_relationship (b : RelationshipBatch) :
    read? b.clauseLexemes =
      some ((if b.dedupe then mergeRelationship else createRelationship)
        (patternOf b.source) (patternOf b.target) b.type) := by
  have hlist : ∀ ls, literal? " AS node_data\nUNWIND node_data AS node\n"
      (plain " AS from_to_data\nUNWIND from_to_data AS tuple\n" ++ ls) = none := fun _ => rfl
  rw [read?, RelationshipBatch.clauseLexemes, hlist]
  cases b.dedupe with
  | true =>
    simp [relationship?, pattern?_lexemes, name?]
  | false =>
    have hverb : ∀ ls, literal? "MERGE" (plain "CREATE" ++ ls) = none := fun _ => rfl
    simp [relationship?, pattern?_lexemes, name?, hverb]

end Write
end GraphLoad
