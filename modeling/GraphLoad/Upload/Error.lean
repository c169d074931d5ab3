import GraphLoad.Failure
import GraphLoad.Specification.Compilation
import GraphLoad.Specification.Validation
import GraphLoad.Upload.Config

/-!
Errors that stop an upload before a statement runs. A statement that fails is no such error; it is
noted in the result.
-/

namespace GraphLoad

inductive UploadError where
  | invalidCredentials (cause : CredentialsError)
  | invalidPayload (cause : PayloadError)
  | configuration (cause : CompileError)
  /-- The database cannot be reached. -/
  | connectivity (cause : Failure)
  /-- The database could not be emptied. -/
  | reset (cause : Failure)
deriving DecidableEq, Repr

def UploadError.message : UploadError → String
  | invalidCredentials cause => "invalid credentials: " ++ cause.message
  | invalidPayload cause => "invalid payload: " ++ cause.message
  | configuration cause => "configuration error: " ++ cause.message
  | connectivity cause => "connectivity check failed: " ++ cause.full
  | reset cause => "database reset failed: " ++ cause.full

end GraphLoad
