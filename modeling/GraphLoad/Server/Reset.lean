import GraphLoad.Server.Link

/-!
Emptying a database: its constraints are dropped, then its nodes are deleted in passes of bounded
size, with their relationships, until a pass finds nothing more.
-/

namespace GraphLoad.Server

variable {σ : Type}

/-- The most nodes that a pass deletes. -/
def deleteBatch : Nat := 50000

def constraintsQuery : String := "SHOW CONSTRAINTS YIELD name"

def dropQuery (name : String) : String :=
  "DROP CONSTRAINT " ++ Cypher.quote name ++ " IF EXISTS"

def deleteQuery : String :=
  s!"MATCH (n) WITH n LIMIT {deleteBatch} DETACH DELETE n RETURN count(n) AS deleted"

/-- The names of the listed constraints: row by row, then what there is behind the rows. -/
def constraintNames (listed : Rows) : Except Failure (List String) := do
  let names ← listed.rows.mapM fun row =>
    (row.text "name").mapError (.context "Constraint row without a name")
  match listed.broken with
  | some f => .error (f.context "Failed to read constraints")
  | none => pure names

def dropAll (link : Link σ) (database : String) : List String → Step σ (Except Failure Unit)
  | [] => pure (.ok ())
  | name :: rest => do
    match ← ask link (.run (some database) (dropQuery name) [])
      s!"Failed to drop constraint {name}" with
    | .error f => pure (.error f)
    | .ok _ =>
      say [.debug s!"Dropped constraint {name}"]
      dropAll link database rest

/-- Lists the constraints and drops them. Gives how many there were. -/
def dropConstraints (link : Link σ) (database : String) : Step σ (Except Failure Nat) := do
  let listed ← fetch link (.run (some database) constraintsQuery []) "Failed to list constraints"
  match listed.bind constraintNames with
  | .error f => pure (.error f)
  | .ok names => pure ((← dropAll link database names).map fun _ => names.length)

/-- How many nodes a pass deleted: none if it answers with no row. Only the first row is read. -/
def deletedCount (answer : Rows) : Except Failure Int := do
  match ← answer.first?.mapError (.context "Failed to read delete count") with
  | none => pure 0
  | some row => (row.integer "deleted").mapError (.context "Delete row without a count")

/-- Deletes nodes once. Gives how many there were. -/
def deleteOnce (link : Link σ) (database : String) : Step σ (Except Failure Int) := do
  let answer ← fetch link (.run (some database) deleteQuery []) "Failed to delete nodes"
  pure (answer.bind deletedCount)

/-- Deletes nodes in passes after `total` of them are deleted, up to the first that deletes none or fails.
They are counted in 64 bits. There is no outcome if every pass deletes some. -/
def Link.deleteFrom (link : Link σ) (database : String) (total : UInt64) (s : σ) :
    Option (Outcome σ Event (Except Failure UInt64)) := do
  let pass := (deleteOnce link database).run s
  match pass.value with
  | .error f => some ⟨.error f, pass.events, pass.state⟩
  | .ok deleted =>
    if 0 < deleted then
      let sum := total + UInt64.ofNat deleted.toNat
      let entry : Log.Entry := .info s!"   Deleted {deleted} nodes ({sum} so far)"
      let rest ← link |>.deleteFrom database sum pass.state
      some ⟨rest.value, pass.events ++ .log entry :: rest.events, rest.state⟩
    else some ⟨.ok total, pass.events, pass.state⟩
partial_fixpoint

/-- Deletes all nodes. The failure stands for passes that never come to an end. -/
def deleteAll (link : Link σ) (database : String) : Step σ (Except Failure UInt64) := fun s =>
  (link.deleteFrom database 0 s).getD ⟨.error (.of "No end of nodes to delete"), [], s⟩

def reset (link : Link σ) (database : String) : Step σ (Except Failure Unit) := do
  say [.info s!"🧹 Resetting database '{database}'"]
  match ← dropConstraints link database with
  | .error f => pure (.error f)
  | .ok constraints =>
    match ← deleteAll link database with
    | .error f => pure (.error f)
    | .ok nodes =>
      say [.info s!"✅ Reset complete: dropped {constraints} constraints, deleted {nodes} nodes"]
      pure (.ok ())

end GraphLoad.Server
