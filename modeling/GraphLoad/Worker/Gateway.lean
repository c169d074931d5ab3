import GraphLoad.Action
import GraphLoad.Failure
import GraphLoad.Log
import GraphLoad.Web.Url
import GraphLoad.Worker.Status

/-!
The gateway that keeps the status of jobs. Each update is one request; whoever forwards updates
sends them in the order in which they came, and a request that fails neither stops the others nor is
made again.
-/

namespace GraphLoad

/-- A request to change what is known about a job. -/
structure Gateway.Request where
  method : String
  url : Url
  contentType : String
  body : Json
deriving DecidableEq, Repr

structure Gateway.Response where
  status : Nat
  body : String
deriving DecidableEq, Repr

inductive Gateway.Event where
  | log (entry : Log.Entry)
  | request (request : Gateway.Request)
deriving DecidableEq, Repr

structure Gateway.Line (σ : Type) where
  send : Gateway.Request → σ → Except Failure Gateway.Response × σ

namespace Gateway

def Response.isSuccess (r : Response) : Bool :=
  200 ≤ r.status && r.status < 300

def trimSlashes (s : String) : String :=
  String.ofList (s.toList.reverse.dropWhile (· == '/')).reverse

/-- Where the status of a job is kept, given the address of the gateway. -/
def address (base job : String) : String :=
  trimSlashes base ++ "/api/v1/uploads/" ++ job

def request (base job : String) (update : StatusUpdate) : Except Url.Problem Request :=
  (Url.ofText (address base job)).map fun url =>
    ⟨"PATCH", url, "application/json", update.toJson⟩

variable {σ : Type}

abbrev Step (σ α : Type) := Action σ Event α

/-- A request that could not be made. -/
private def unsent (cause : Failure) : Failure :=
  .context "Failed to send update request" cause

def ask (line : Line σ) (r : Request) : Step σ (Except Failure Response) := fun s =>
  let (outcome, s) := line.send r s
  ⟨outcome, [.request r], s⟩

/-- An optional value in the log. -/
private def optionText : Option String → String
  | some s => "Some(" ++ s ++ ")"
  | none => "None"

def update (line : Line σ) (base job : String) (u : StatusUpdate) :
    Step σ (Except Failure Unit) := do
  match request base job u with
  | .error p => pure (.error (unsent (.context "builder error" (.of p.message))))
  | .ok r =>
    match ← ask line r with
    | .error f => pure (.error (unsent f))
    | .ok response =>
      if response.isSuccess then
        let status := optionText (u.status.map Status.title)
        let progress := optionText (u.progress.map toString)
        .emit [.log <| .info
          s!"📊 Updated upload {job} (status={status}, progress={progress})"]
        pure (.ok ())
      else
        .emit [.log <| .error s!"Failed to update upload status: {response.body}"]
        pure (.error (.of s!"API Error: {response.body}"))

/-- Sends an update; a failure is noted. -/
def deliver (line : Line σ) (base job : String) (u : StatusUpdate) : Step σ Unit := do
  match ← update line base job u with
  | .ok () => pure ()
  | .error f =>
    .emit [.log <| .error s!"Failed to report status for upload {job}: {f.report}"]

/-- Sends updates one after another, whatever comes of them. -/
def forward (line : Line σ) (base : String) : List (String × StatusUpdate) → Step σ Unit
  | [] => pure ()
  | (job, u) :: rest => do
    deliver line base job u
    forward line base rest

end Gateway
end GraphLoad
