import GraphLoad.Server.Link

/-!
Running a statement: in a transaction of its own, between two counts of what the database holds. The
transaction is committed if everything in it succeeded and rolled back otherwise.
-/

namespace GraphLoad.Server

variable {σ : Type}

/-- A count of what a database holds. -/
inductive Census where
  | nodes
  | relationships
deriving DecidableEq, Repr

namespace Census

def query : Census → String
  | nodes => "MATCH (n) RETURN count(n) AS nodes"
  | relationships => "MATCH ()-[r]->() RETURN count(r) AS relationships"

def column : Census → String
  | nodes => "nodes"
  | relationships => "relationships"

def read (c : Census) : List Row → Except Failure Int
  | [] => .error (.of s!"Count query for {c.column} returned no rows")
  | row :: _ => row.integer c.column

end Census

def count (link : Link σ) (c : Census) : Step σ (Except Failure Int) := do
  let answer ← fetch link (.run none c.query []) s!"Failed to count {c.column}"
  pure ((answer.bind Rows.all).bind c.read)

def countAll (link : Link σ) : Step σ (Except Failure (Int × Int)) := do
  match ← count link .nodes with
  | .error f => pure (.error f)
  | .ok nodes =>
    match ← count link .relationships with
    | .error f => pure (.error f)
    | .ok relationships => pure (.ok (nodes, relationships))

def statementRequest (s : Statement) : Request :=
  .run none s.text (s.parameters.map fun e => (e.1, .ofJson e.2))

/-- Runs a statement between two counts. Since statements only add, what there is more of was
created. -/
def runCounted (link : Link σ) (s : Statement) : Step σ (Except Failure Counters) := do
  match ← countAll link with
  | .error f => pure (.error f)
  | .ok before =>
    match ← ask link (statementRequest s) "Failed to run statement" with
    | .error f => pure (.error f)
    | .ok _ =>
      match ← countAll link with
      | .error f => pure (.error f)
      | .ok after => pure (.ok {
          nodesCreated := (after.1 - before.1).toNat
          relationshipsCreated := (after.2 - before.2).toNat
          propertiesSet := s.propertyBindings })

/-- Runs a statement on a database, all or nothing. -/
def execute (link : Link σ) (s : Statement) (database : String) :
    Step σ (Except Failure Counters) := do
  match ← ask link (.begin database) s!"Failed to start transaction on '{database}'" with
  | .error f => pure (.error f)
  | .ok _ =>
    match ← runCounted link s with
    | .ok counters =>
      pure ((← ask link .commit "Failed to commit transaction").map fun _ => counters)
    | .error f =>
      say [.warn s!"❌ Statement failed, rolling back: {f.full}"]
      match ← ask link .rollback "Failed to rollback transaction" with
      | .error g => pure (.error g)
      | .ok _ => pure (.error f)

end GraphLoad.Server
