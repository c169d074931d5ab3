import GraphLoad.Worker.Job

/-!
The queue of jobs. A worker asks for the last job of the queue, once for each turn, and does the job
before it asks again. What is no job is lost, but the worker goes on.
-/

namespace GraphLoad

/-- What the server of a queue answers. -/
inductive Queue.Reply where
  | text (s : String)
  | number (n : Int)
  /-- An array, or bytes that are no text. -/
  | other
  /-- The queue is empty. -/
  | nothing
  | error (line : String)
deriving DecidableEq, Repr

inductive Queue.Problem where
  /-- The server refused or answered with something else than a text. -/
  | refused (reply : Queue.Reply)
  | undecodable (cause : Json.Problem)
deriving DecidableEq, Repr

namespace Queue

def Problem.message : Problem → String
  | refused _ => "Failed to pop from Redis queue"
  | undecodable _ => "Failed to deserialize upload job"

def Reply.job? : Reply → Except Problem (Option Job)
  | text s => ((Job.ofText s).mapError .undecodable).map some
  | nothing => .ok none
  | reply => .error (.refused reply)

/-- The world of a worker: the replies that the queue's server will give, and the database. -/
structure World (σ : Type) where
  replies : List Reply
  database : σ

variable {σ : Type}

/-- Takes the next job from a queue. Where no more replies are known the queue is empty. -/
def pop (queue : String) : Action (World σ) Worker.Event (Except Problem (Option Job)) := fun w =>
  ⟨(w.replies.head?.getD .nothing).job?, [.pop queue], { w with replies := w.replies.tail }⟩

/-- Takes a job from a queue and does it. Gives whether there was one. -/
def process (b : Backend σ) (clock : Upload.Clock) (base : Config) (reporter : Worker.Reporter)
    (queue : String) : Action (World σ) Worker.Event (Except Problem Bool) := do
  match ← pop queue with
  | .error e => pure (.error e)
  | .ok none => pure (.ok false)
  | .ok (some job) =>
    let _ ← (job.handle b clock base reporter).within World.database
      fun database w => { w with database }
    pure (.ok true)

/-- So many turns, each with what happened in it. -/
def turns (b : Backend σ) (clock : Upload.Clock) (base : Config) (reporter : Worker.Reporter)
    (queue : String) (n : Nat) :
    Action (World σ) Worker.Event (List (Except Problem Bool × List Worker.Event)) :=
  (process b clock base reporter queue).traced.times n

end Queue
end GraphLoad
