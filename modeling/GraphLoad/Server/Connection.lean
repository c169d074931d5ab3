import GraphLoad.Retry
import GraphLoad.Server.Certificate
import GraphLoad.Server.Reset
import GraphLoad.Server.Transaction
import GraphLoad.Upload.Backend
import GraphLoad.Upload.Config
import GraphLoad.Web.Url

/-!
Connections to a database server. The server is not spoken to when a connection is made, so only the
form of the address can be at fault. A connection serves as the database of uploads.
-/

namespace GraphLoad.Server

variable {σ : Type}

/-- The schemes by which a server can be reached: directly or through a cluster, and plain,
encrypted, or encrypted without a look at the certificate. -/
def schemes : List String :=
  ["bolt", "bolt+s", "bolt+ssc", "neo4j", "neo4j+s", "neo4j+ssc"]

/-- Whether connections of a scheme are encrypted, which takes a name to hold the server to. -/
def isEncrypted (scheme : String) : Bool :=
  ["bolt+s", "bolt+ssc", "neo4j+s", "neo4j+ssc"].contains scheme

/-- The address of a server. Without a scheme or a host the text is taken for a host and its
number. -/
def address (text : String) : Except Url.Problem Url :=
  let direct := Url.ofText ("bolt://" ++ text)
  match Url.ofText text with
  | .ok url => if url.host.isSome then .ok url else direct
  | .error .noScheme => direct
  | .error p => .error p

def checkHost (scheme : String) : Host → Except Failure Unit
  | .name text =>
    if isEncrypted scheme && !Certificate.isSubject text.toList then
      .error (.of s!"Invalid DNS name: {text}")
    else .ok ()
  | .ipv4 _ => .ok ()
  | .ipv6 _ => .ok ()

def checkUrl (url : Url) : Except Failure Unit :=
  if schemes.contains url.scheme then (url.host.map (checkHost url.scheme)).getD (.ok ())
  else .error (.of s!"Unsupported URI scheme: {url.scheme}")

def checkAddress (text : String) : Except Failure Unit :=
  match address text with
  | .error p => .error (.of s!"Invalid URI: {p.message}")
  | .ok url => checkUrl url

/-- Whether the text is an address, but one without a host. -/
def isHostless (text : String) : Bool :=
  match address text with
  | .ok url => url.host.isNone
  | .error _ => false

/-- A connection to a server, and the database it was made for. -/
structure Connection where
  database : String
deriving DecidableEq, Repr

inductive ConnectProblem where
  /-- The attempts came to nothing. -/
  | retry (problem : Retry.Problem)
  /-- There was no host to turn to, and the first attempt was broken off. -/
  | hostless
deriving DecidableEq, Repr

def connect (c : Config) (attempts : Nat) : Retry.Step σ (Except ConnectProblem Connection) := do
  if isHostless c.uri && attempts != 0 then
    .emit [.log <| Retry.announcement "Neo4j" c.uri 1 attempts, .attempt]
    pure (.error .hostless)
  else
    let outcome ← Retry.connect "Neo4j" c.uri attempts fun s =>
      ((checkAddress c.uri).map fun _ => ⟨c.database⟩, s)
    pure (outcome.mapError .retry)

def verify (link : Link σ) (c : Connection) : Step σ (Except Failure Unit) := do
  let answer ← ask link (.run (some c.database) "RETURN 1" [])
    s!"Failed to reach Neo4j database '{c.database}'"
  pure (answer.map fun _ => ())

/-- What a step comes to for an upload, which sees no requests. -/
def Step.answer {α : Type} (step : Step σ (Except Failure α)) : σ → Answer σ α := fun s =>
  let o := step.run s
  ⟨o.value, o.events.filterMap fun | .log e => some e | .request _ => none, o.state⟩

/-- The connection as the database of an upload. -/
def backend (link : Link σ) (c : Connection) : Backend σ where
  verify := (verify link c).answer
  execute statement database := (execute link statement database).answer
  reset database := (reset link database).answer

end GraphLoad.Server
