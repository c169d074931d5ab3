import GraphLoad.Action
import GraphLoad.Cypher.Statement
import GraphLoad.Failure
import GraphLoad.Log
import GraphLoad.Number.Binary64

/-!
The link to a database server: what can be asked of a server, what it answers, and how the values of
a statement are handed to it. A server is in a state of its own; nothing else is assumed of it. Nor is it
said how a row is read: a row is what its columns give.
-/

namespace GraphLoad.Server

inductive Parameter where
  | null
  | bool (b : Bool)
  /-- An integer of 64 bits. -/
  | integer (i : Int)
  | real (d : Decimal)
  | text (s : String)
deriving DecidableEq, Repr

/-- A value as it is handed over. Integers that need more than 64 bits with a sign become the
nearest real number, arrays and objects become their JSON text. -/
def Parameter.ofJson : Json → Parameter
  | .null => null
  | .bool b => bool b
  | .number (.int i) =>
    if -(Nat.pow 2 63) ≤ i ∧ i < Nat.pow 2 63 then integer i else real (.ofInt i)
  | .number (.real d) => real d
  | .string s => text s
  | j => text j.render

/-- What is asked of a server. A query outside of a transaction names its database. -/
inductive Request where
  | begin (database : String)
  | run (database : Option String) (text : String) (parameters : List (String × Parameter))
  | commit
  | rollback
deriving DecidableEq, Repr

/-- A row: what a column gives where an integer of 64 bits or a text is expected. -/
structure Row where
  integer : String → Except Failure Int
  text : String → Except Failure String

/-- The rows of an answer, and the failure that it is broken off with behind them, if it is. -/
structure Rows where
  rows : List Row
  broken : Option Failure

namespace Rows

def all (r : Rows) : Except Failure (List Row) :=
  match r.broken with
  | some f => .error f
  | none => .ok r.rows

def first? (r : Rows) : Except Failure (Option Row) :=
  match r.rows, r.broken with
  | row :: _, _ => .ok (some row)
  | [], some f => .error f
  | [], none => .ok none

end Rows

/-- A server: it answers each request with rows, or it fails. -/
structure Link (σ : Type) where
  answer : Request → σ → Except Failure Rows × σ

inductive Event where
  | log (entry : Log.Entry)
  | request (request : Request)
deriving DecidableEq, Repr

variable {σ : Type}

abbrev Step (σ α : Type) := Action σ Event α

def say (entries : List Log.Entry) : Step σ Unit :=
  .emit (entries.map .log)

/-- Sends a request to read rows of the answer. Only if it fails at once, this is told with what was
tried. -/
def fetch (link : Link σ) (request : Request) (trying : String) : Step σ (Except Failure Rows) := fun s =>
  let (outcome, s) := link.answer request s
  ⟨outcome.mapError (.context trying), [.request request], s⟩

/-- Sends a request and waits for the whole answer; any failure is told with what was tried. -/
def ask (link : Link σ) (request : Request) (trying : String) :
    Step σ (Except Failure (List Row)) := fun s =>
  let (outcome, s) := link.answer request s
  ⟨(outcome.bind Rows.all).mapError (.context trying), [.request request], s⟩

end GraphLoad.Server
