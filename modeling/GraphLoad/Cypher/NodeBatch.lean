import GraphLoad.Cypher.Statement
import GraphLoad.Log

/-!
The statement that writes a batch of nodes. Each record whose key is not blank gives one element.
With `dedupe` repeated records are dropped and nodes are merged on their key, so running the
statement again changes nothing; without it each element creates a node.
-/

namespace GraphLoad

structure NodeBatch where
  id : String
  records : List Record
  key : String
  labels : List String
  excludeKeys : List String
  dedupe : Bool
deriving DecidableEq, Repr

namespace NodeBatch

variable (b : NodeBatch)

/-- The value that identifies the node of a record: that of its key, unless it is blank. -/
def keyValue? (key : String) (record : Record) : Option Json :=
  (Fields.get? record key).filter (!Property.isBlank ·)

/-- The records, each once if repeated ones are dropped. -/
def candidates : List Record :=
  if b.dedupe then Record.distinct b.records else b.records

/-- The keys that are not written. A created node has no other place for its key. -/
def excluded : List String :=
  if b.dedupe then b.excludeKeys else b.excludeKeys.filter (· != b.key)

/-- The element of a record at an index, if it has a key. -/
def element? (record : Record) (index : Nat) : Option Element :=
  (keyValue? b.key record).map fun value =>
    { suffix := b.id ++ toString index
      ends := [(b.key, Property.bindable value)]
      properties := Property.of b.excluded record }

/-- The elements of the batch. An index counts the skipped records too. -/
def elements : List Element :=
  b.candidates.zipIdx.filterMap fun (record, index) => b.element? record index

/-- The clauses that write a node and its properties, then its other labels. -/
def clauses (label : String) (others : List String) : String :=
  "UNWIND node_data AS node\n" ++
    (if b.dedupe then
      "MERGE (n:" ++ Cypher.quote label ++ " \x7b" ++ Cypher.quote b.key ++ ":node[0]\x7d)"
    else "CREATE (n:" ++ Cypher.quote label ++ ")") ++
    "\nSET n += node[1]" ++
    String.join (others.map fun other => "\nSET n:" ++ Cypher.quote other)

/-- The statement; none without a label or an element. -/
def statement? : Option Statement :=
  match b.labels, b.elements with
  | [], _ | _, [] => none
  | label :: others, elements => some (.ofElements elements "node_data" (b.clauses label others))

/-- A warning for each record without a key, then the size of the statement. -/
def log : List Log.Entry :=
  if b.labels.isEmpty then [] else
  (b.candidates.zipIdx.filterMap fun (record, index) =>
    if (b.element? record index).isSome then none
    else some (.warn
      s!"⚠️  Skipping node record {index} in batch {b.id}: no value for key '{b.key}'")) ++
  match b.statement? with
  | none => []
  | some s => [.debug <|
      s!"Compiled node batch {b.id} ({b.elements.length} records, " ++
      s!"{s.parameters.length} parameters)"]

end NodeBatch
end GraphLoad
