import GraphLoad.Action
import GraphLoad.Upload.Backend
import GraphLoad.Upload.Error
import GraphLoad.Upload.Result

/-!
Uploads. The config is checked before the database is called, the database is reached before the
payload is looked at, and it is emptied, if that is asked for, before the payload is compiled. Then
the statements run one after another; one that fails is noted and the others still run.
-/

namespace GraphLoad

inductive Upload.Event where
  | log (entry : Log.Entry)
  | call (call : Call)
  /-- The account after a statement. -/
  | progress (result : UploadResult)
deriving DecidableEq, Repr

/-- The times at which the statements of an upload start and end. -/
structure Upload.Clock where
  start : Instant
  stop : Instant
deriving DecidableEq, Repr

namespace Upload

variable {σ α : Type}

abbrev Step (σ α : Type) := Action σ Event α

def say (entries : List Log.Entry) : Step σ Unit :=
  .emit (entries.map .log)

def ask (call : Call) (answer : σ → Answer σ α) : Step σ (Except Failure α) := fun s =>
  let a := answer s
  ⟨a.outcome, .call call :: a.log.map .log, a.state⟩

/-- The account after the statement at a position of so many was run. -/
def account (position total : Nat) (outcome : Except Failure Counters) (r : UploadResult) :
    UploadResult :=
  match outcome with
  | .ok counters => r.addCounters counters
  | .error f => r.pushError s!"Error processing batch {position} of {total}: {f.full}"

/-- What is said after the statement at a position of so many was run. -/
def statementLog (position total : Nat) : Except Failure Counters → Log.Entry
  | .ok c => .info <|
    s!"✅ Batch {position}/{total} done (+{c.nodesCreated} nodes, " ++
    s!"+{c.relationshipsCreated} relationships, {c.propertiesSet} properties)"
  | .error f => .error s!"❌ Batch {position}/{total} failed: {f.full}"

def runFrom (b : Backend σ) (database : String) (total : Nat) :
    (position : Nat) → List Statement → UploadResult → Step σ UploadResult
  | _, [], r => pure r
  | position, statement :: rest, r => do
    let outcome ← ask (.execute database statement) (b.execute statement database)
    let r := account position total outcome r
    say [statementLog position total outcome]
    .emit [.progress r]
    runFrom b database total (position + 1) rest r

/-- Seconds with two places. -/
private def hundredths (d : Decimal) : String :=
  let (num, den) := d.magnitude.fraction
  let n := Binary64.roundEven (num * 100) den
  (if d.negative then "-" else "") ++ toString (n / 100) ++ "." ++
    String.ofList (Text.padZero 2 (Text.decimal (n % 100)))

def summaryLog (r : UploadResult) : Log.Entry :=
  if r.wasSuccessful then .info <|
    s!"✅ Upload finished in {hundredths (r.secondsToComplete.getD (.zero false))}s: " ++
    s!"{r.nodesCreated} nodes, {r.relationshipsCreated} relationships, " ++
    s!"{r.propertiesSet} properties"
  else .warn <|
    s!"⚠️  Upload finished with errors ({r.recordsCompleted}/{r.recordsTotal} batches succeeded)"

def execute (b : Backend σ) (clock : Clock) (database : String) (statements : List Statement) :
    Step σ UploadResult := do
  let total := statements.length
  say [.info s!"💾 Executing {total} statements on database '{database}'"]
  let r ← runFrom b database total 1 statements (.start clock.start total)
  let r := r.finish clock.stop
  say [summaryLog r]
  pure r

def noDataMessage : String := "No data to process"

/-- The result where there is nothing to write. -/
def noData (clock : Clock) : UploadResult :=
  ((UploadResult.start clock.start 0).pushError noDataMessage).finish clock.start

/-- Empties the database if the config asks for it. -/
def clear (b : Backend σ) (c : Config) : Step σ (Except Failure Unit) :=
  if c.overwrite then do
    say [.warn s!"🧹 Overwrite requested, resetting database '{c.database}'"]
    ask (.reset c.database) (b.reset c.database)
  else pure (.ok ())

/-- Writes a specification to a database that was reached: empties it if that is asked for, compiles
and runs the statements. -/
def write (b : Backend σ) (clock : Clock) (c : Config) (spec : Specification) :
    Step σ (Except UploadError UploadResult) := do
  match ← clear b c with
  | .error f => pure (.error (.reset f))
  | .ok () =>
    say (spec.compileLog c.maxBatchSize)
    match spec.compile c.maxBatchSize with
    | .error e => pure (.error (.configuration e))
    | .ok [] =>
      say [.warn s!"⚠️  {noDataMessage}"]
      pure (.ok (noData clock))
    | .ok statements => .ok <$> execute b clock c.database statements

/-- Checks, compiles and writes a payload. -/
def upload (b : Backend σ) (clock : Clock) (c : Config) (payload : Json) :
    Step σ (Except UploadError UploadResult) := do
  match c.validate with
  | .error e => pure (.error (.invalidCredentials e))
  | .ok () =>
    match ← ask .verify b.verify with
    | .error f => pure (.error (.connectivity f))
    | .ok () =>
      match Specification.ofJson payload with
      | .error e => pure (.error (.invalidPayload e))
      | .ok spec => write b clock c spec

end Upload
end GraphLoad
