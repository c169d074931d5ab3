import GraphLoad.Json.TextShape
import GraphLoad.Upload.Upload
import GraphLoad.Worker.Reporter

/-!
Upload jobs. A job brings a payload and may override some of the worker's settings. While it runs
its progress is reported whenever the percentage has changed, and at the end its outcome.
-/

namespace GraphLoad

/-- What a job may override. -/
structure Job.Options where
  database : Option String
  maxBatchSize : Option Nat
  overwrite : Bool
deriving DecidableEq, Repr

structure Job where
  id : String
  /-- The description of the graph. -/
  data : Json
  options : Job.Options
deriving DecidableEq, Repr

namespace Job

open Json.Decode

namespace Options

def none : Options := ⟨.none, .none, false⟩

private def databasePart : Part Options :=
  .of "database" .nullable (optional string) fun v o => { o with database := v }

private def sizePart : Part Options :=
  .of "max_batch_size" .nullable (optional size) fun v o => { o with maxBatchSize := v }

private def overwritePart : Part Options :=
  .of "overwrite" .defaulted bool fun v o => { o with overwrite := v }

def shape : Shape Options where
  name := "UploadOptions"
  strict := false
  parts := [databasePart, sizePart, overwritePart]
  blank := none

def textShape : TextShape Options where
  parts := shape.parts.map .scalar
  blank := none

end Options

private def idPart : Part Job :=
  .of "job_id" .required string fun v j => { j with id := v }

private def dataPart : Part Job :=
  .of "data" .required .ok fun v j => { j with data := v }

private def optionsPart : Part Job :=
  .of "options" .defaulted Options.shape.decode fun v j => { j with options := v }

def shape : Shape Job where
  name := "UploadJob"
  strict := false
  parts := [idPart, dataPart, optionsPart]
  blank := ⟨"", .null, .none⟩

def textShape : TextShape Job where
  parts := [.scalar idPart, .whole dataPart,
    .nested optionsPart.name optionsPart.absence Options.textShape fun v j =>
      { j with options := v }]
  blank := shape.blank

def ofText (s : String) : Except Json.Problem Job :=
  textShape.ofText s

/-- The settings of the job's upload, given those of the worker. Whether the database is emptied is
for the job alone to say. -/
def config (job : Job) (base : Config) : Config :=
  { base with
    database := job.options.database.getD base.database
    maxBatchSize := job.options.maxBatchSize.getD base.maxBatchSize
    overwrite := job.options.overwrite }

/-- What an upload's events come to for a worker: an account is reported if its percentage differs
from the last. -/
def relay (reporter : Worker.Reporter) (id : String) :
    (last : Nat) → List Upload.Event → List Worker.Event
  | _, [] => []
  | last, .log entry :: r => .log entry :: relay reporter id last r
  | last, .call call :: r => .call call :: relay reporter id last r
  | last, .progress account :: r =>
    if account.percent = last then relay reporter id last r
    else reporter.send id (.processing account.percent) :: relay reporter id account.percent r

/-- What is said and reported at the end. -/
def closing (reporter : Worker.Reporter) (id : String) :
    Except UploadError UploadResult → List Worker.Event
  | .ok result =>
    if result.wasSuccessful then
      [.log (.info s!"✅ Successfully processed upload job: {id}"),
        reporter.send id (.completed result.toJson)]
    else
      [.log (.warn s!"⚠️  Upload job {id} finished with errors"),
        reporter.send id (.failed result.errorMessage result.toJson)]
  | .error e =>
    [.log (.error s!"❌ Failed to process upload job {id}: {e.message}"),
      reporter.send id (.failed e.message none)]

/-- Does a job and reports on it. Gives the account if the upload came to run. -/
def handle {σ : Type} (b : Backend σ) (clock : Upload.Clock) (base : Config)
    (reporter : Worker.Reporter) (job : Job) : Action σ Worker.Event (Option UploadResult) := do
  .emit [.log (.info s!"📝 Processing upload job: {job.id}"),
    reporter.send job.id (.processing 0)]
  let outcome ← (Upload.upload b clock (job.config base) job.data).mapEvents
    (relay reporter job.id 0)
  .emit (closing reporter job.id outcome)
  pure outcome.toOption

end Job
end GraphLoad
