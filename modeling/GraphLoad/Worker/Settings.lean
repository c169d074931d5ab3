import GraphLoad.Text.Digits
import GraphLoad.Upload.Error

/-!
The settings of a worker, from the variables of its environment. Every variable has a default. The
batch size is looked at first, since it alone has to be read; the database settings are checked like
any other config.
-/

namespace GraphLoad.Worker

structure Settings where
  /-- The address of the server that holds the queue. -/
  queueUrl : String
  /-- The name of the queue. -/
  queue : String
  /-- The address of the gateway to report to. -/
  gatewayUrl : String
  /-- The settings of an upload, where a job says nothing else. -/
  config : Config
deriving DecidableEq, Repr

inductive SettingsError where
  | batchSize (text : String) (problem : Text.NumberProblem)
  | config (cause : CredentialsError)
deriving DecidableEq, Repr

def SettingsError.failure : SettingsError → Failure
  | batchSize text problem =>
    .context ("MAX_BATCH_SIZE is not a number: " ++ text) (.of problem.message)
  | config cause =>
    .context "Invalid Neo4j configuration" (.of (UploadError.invalidCredentials cause).message)

namespace Settings

/-- The batch size that the variable gives, if it is set. -/
def batchSize : Option String → Except SettingsError Nat
  | none => .ok Config.defaultBatchSize
  | some text => (Text.unsignedBelow (Nat.pow 2 64) text.toList).mapError (.batchSize text)

def ofVariables (lookup : String → Option String) : Except SettingsError Settings := do
  let maxBatchSize ← batchSize (lookup "MAX_BATCH_SIZE")
  let config : Config := {
    uri := (lookup "NEO4J_URI").getD "bolt://localhost:7687"
    user := (lookup "NEO4J_USER").getD Config.defaultUser
    password := (lookup "NEO4J_PASSWORD").getD "password"
    database := (lookup "NEO4J_DATABASE").getD Config.defaultDatabase
    maxBatchSize
    overwrite := false }
  config.validate.mapError .config
  .ok {
    queueUrl := (lookup "REDIS_URL").getD "redis://localhost:6379"
    queue := (lookup "UPLOAD_QUEUE").getD "upload_queue"
    gatewayUrl := (lookup "API_GATEWAY_URL").getD "http://localhost:8080"
    config }

end Settings
end GraphLoad.Worker
