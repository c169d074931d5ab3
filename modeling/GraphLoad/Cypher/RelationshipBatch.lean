import GraphLoad.Cypher.Statement
import GraphLoad.Log
import GraphLoad.Record.Path

/-!
The statement that writes a batch of relationships. Each record in which both endpoints are found
gives one element. An endpoint's value is looked up under its whole record key first, then along the
key as a path (`endpointValue?`).
-/

namespace GraphLoad

/-- How the node at one end of a relationship is found: an optional label, the property it is
matched on, and where a record holds that property's value. -/
structure Endpoint where
  label : Option String
  nodeKey : String
  recordKey : String
deriving DecidableEq, Repr

/-- The value that identifies an endpoint's node: a scalar other than `null`, under the record key
itself or at the path that it spells. -/
def Record.endpointValue? (record : Record) (recordKey : String) : Option Json :=
  match (Path.present (Fields.get? record recordKey)).or (Path.resolveIn recordKey record) with
  | some (.array _) | some (.object _) => none
  | found => found

structure RelationshipBatch where
  id : String
  records : List Record
  source : Endpoint
  target : Endpoint
  type : String
  excludeKeys : List String
  dedupe : Bool
deriving DecidableEq, Repr

namespace RelationshipBatch

variable (b : RelationshipBatch)

/-- The records, each once if repeated ones are dropped. -/
def candidates : List Record :=
  if b.dedupe then Record.distinct b.records else b.records

/-- The element of a record at an index, if both endpoints are found. -/
def element? (record : Record) (index : Nat) : Option Element :=
  match record.endpointValue? b.source.recordKey, record.endpointValue? b.target.recordKey with
  | some source, some target =>
    some
      { suffix := b.id ++ toString index
        ends := [(b.source.recordKey, source), (b.target.recordKey, target)]
        properties := Property.of b.excludeKeys record }
  | _, _ => none

/-- The elements of the batch. An index counts the skipped records too. -/
def elements : List Element :=
  b.candidates.zipIdx.filterMap fun (record, index) => b.element? record index

def matchClause (variableName : String) (e : Endpoint) (position : String) : String :=
  "MATCH (" ++ variableName ++ (match e.label with
    | some label => ":" ++ Cypher.quote label
    | none => "") ++
    " \x7b" ++ Cypher.quote e.nodeKey ++ ":tuple[" ++ position ++ "]\x7d)\n"

def clauses : String :=
  "UNWIND from_to_data AS tuple\n" ++ matchClause "fromNode" b.source "0" ++
    matchClause "toNode" b.target "1" ++ (if b.dedupe then "MERGE" else "CREATE") ++
    " (fromNode)-[r:" ++ Cypher.quote b.type ++ "]->(toNode)\nSET r += tuple[2]"

/-- The statement; none without an element. -/
def statement? : Option Statement :=
  match b.elements with
  | [] => none
  | elements => some (.ofElements elements "from_to_data" b.clauses)

/-- A warning for each record with an endpoint missing, then the size of the statement. -/
def log : List Log.Entry :=
  (b.candidates.zipIdx.filterMap fun (record, index) =>
    if (b.element? record index).isSome then none
    else some (.warn <|
      s!"⚠️  Skipping {b.type} record {index} in batch {b.id}: " ++
      s!"could not resolve '{b.source.recordKey}' and '{b.target.recordKey}'")) ++
  if b.elements.isEmpty then []
  else [.debug s!"Compiled {b.type} batch {b.id} ({b.elements.length} records)"]

end RelationshipBatch
end GraphLoad
