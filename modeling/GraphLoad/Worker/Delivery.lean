import GraphLoad.Worker.Gateway
import GraphLoad.Worker.Reporter

/-!
How updates get from a worker to the gateway. Reporters put them into a channel without a bound, which
hands them out in the order in which they came; a task takes them out one after another and sends each.
What the reporters do and what the task does may interleave in any way. The task ends when the channel is
empty and no reporter is left.
-/

namespace GraphLoad.Delivery

/-- An update and the job that it is about. -/
abbrev Message := String × StatusUpdate

inductive Task where
  | waiting
  /-- An update has been taken out of the channel and is to be sent. -/
  | holding (message : Message)
  | ended
deriving DecidableEq, Repr

/-- The reporters, the channel, the task, the line to the gateway, and what the task has done. -/
structure State (σ : Type) where
  /-- The number of reporters that are left. -/
  reporters : Nat
  /-- The updates that were sent and not yet taken out, first in, first out. -/
  channel : List Message
  task : Task
  line : σ
  events : List Gateway.Event

/-- What may happen next: three things that the holders of reporters do, and three that the task does. -/
inductive Act where
  | clone
  | drop
  | send (message : Message)
  | receive
  | request
  | finish
deriving DecidableEq, Repr

variable {σ : Type}

def start (line : σ) : State σ :=
  ⟨1, [], .waiting, line, []⟩

def State.reporter (s : State σ) : Worker.Reporter :=
  if s.task = .ended then .stopped else .listening

/-- What gets into the channel by what a reporter does. -/
def accepted : Worker.Event → List Message
  | .update job u => [(job, u)]
  | .log _ | .call _ | .pop _ => []

/-- The state after an act, if the act is possible. -/
def step? (line : Gateway.Line σ) (base : String) (s : State σ) : Act → Option (State σ)
  | .clone => if 0 < s.reporters then some { s with reporters := s.reporters + 1 } else none
  | .drop => if 0 < s.reporters then some { s with reporters := s.reporters - 1 } else none
  | .send (job, u) =>
    if 0 < s.reporters then
      some { s with channel := s.channel ++ accepted (s.reporter.send job u) }
    else none
  | .receive =>
    match s.task, s.channel with
    | .waiting, message :: rest => some { s with task := .holding message, channel := rest }
    | _, _ => none
  | .request =>
    match s.task with
    | .holding (job, u) =>
      let o := (Gateway.deliver line base job u).run s.line
      some { s with task := .waiting, line := o.state, events := s.events ++ o.events }
    | _ => none
  | .finish =>
    if s.task = .waiting ∧ s.channel = [] ∧ s.reporters = 0 then some { s with task := .ended }
    else none

/-- The state after acts, if each of them is possible when its turn comes. -/
def run? (line : Gateway.Line σ) (base : String) (s : State σ) (acts : List Act) : Option (State σ) :=
  acts.foldlM (step? line base) s

end GraphLoad.Delivery
