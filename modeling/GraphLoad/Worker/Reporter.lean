import GraphLoad.Log
import GraphLoad.Upload.Backend
import GraphLoad.Worker.Status

/-!
What a worker does that can be seen from outside, and the way its status updates take. Updates go
through a channel to whoever forwards them; once that party has stopped they are dropped.
-/

namespace GraphLoad.Worker

inductive Event where
  | log (entry : Log.Entry)
  /-- A call of the database. -/
  | call (call : Call)
  /-- The next job is asked of a queue. -/
  | pop (queue : String)
  /-- An update about a job is handed over. -/
  | update (job : String) (update : StatusUpdate)
deriving DecidableEq, Repr

/-- Whether somebody listens to the updates. -/
inductive Reporter where
  | listening
  | stopped
deriving DecidableEq, Repr

def Reporter.send (reporter : Reporter) (job : String) (update : StatusUpdate) : Event :=
  match reporter with
  | listening => .update job update
  | stopped => .log <| .warn s!"⚠️  Status reporter stopped, dropping update for upload {job}"

end GraphLoad.Worker
