import GraphLoad.Json.Value

/-! Status updates: what a worker tells about a job while it runs and when it ends. -/

namespace GraphLoad

inductive Status where
  | processing
  | completed
  | failed
deriving DecidableEq, Repr

def Status.name : Status → String
  | processing => "PROCESSING"
  | completed => "COMPLETED"
  | failed => "FAILED"

def Status.title : Status → String
  | processing => "Processing"
  | completed => "Completed"
  | failed => "Failed"

/-- What is told about a job; what stays as it is, is left out. -/
structure StatusUpdate where
  status : Option Status
  /-- The progress in percent. -/
  progress : Option Int
  /-- The account of the upload. -/
  resultSummary : Option Json
  error : Option String
deriving DecidableEq, Repr

namespace StatusUpdate

/-- The job is under way. -/
def processing (progress : Int) : StatusUpdate :=
  ⟨some .processing, some progress, none, none⟩

/-- The job is done. -/
def completed (resultSummary : Json) : StatusUpdate :=
  ⟨some .completed, some 100, some resultSummary, none⟩

/-- The job failed; where statements ran there is an account of them. -/
def failed (error : String) (resultSummary : Option Json) : StatusUpdate :=
  ⟨some .failed, none, resultSummary, some error⟩

def toJson (u : StatusUpdate) : Json :=
  .ofEntries <|
    (u.status.map fun s => ("status", .string s.name)).toList ++
    (u.progress.map fun n => ("progress", .number (.int n))).toList ++
    (u.resultSummary.map fun j => ("result_summary", j)).toList ++
    (u.error.map fun e => ("error", .string e)).toList

end StatusUpdate
end GraphLoad
