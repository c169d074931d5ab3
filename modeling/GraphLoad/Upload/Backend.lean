import GraphLoad.Cypher.Statement
import GraphLoad.Failure
import GraphLoad.Log

/-!
The database as an upload sees it. A backend answers three calls, each from the state it is in; what
it is like otherwise is its own affair, so every statement about uploads holds of every backend.
-/

namespace GraphLoad

/-- What a backend answers: the outcome, what it says on the way, and the state it is in then. -/
structure Answer (σ α : Type) where
  outcome : Except Failure α
  log : List Log.Entry
  state : σ

/-- A graph database in a state `σ`. -/
structure Backend (σ : Type) where
  /-- Whether the database can be reached. -/
  verify : σ → Answer σ Unit
  /-- Runs a statement on a database. -/
  execute : Statement → String → σ → Answer σ Counters
  /-- Empties a database. -/
  reset : String → σ → Answer σ Unit

inductive Call where
  | verify
  | execute (database : String) (statement : Statement)
  | reset (database : String)
deriving DecidableEq, Repr

end GraphLoad
