import GraphLoad.Json.Decode
import GraphLoad.Text.Space

/-! Where an upload goes, and how. -/

namespace GraphLoad

/-- The database to write to, and the settings of an upload. -/
structure Config where
  uri : String
  password : String
  user : String
  database : String
  /-- The most records that one statement writes. -/
  maxBatchSize : Nat
  /-- Whether the database is emptied first. -/
  overwrite : Bool
deriving DecidableEq, Repr

inductive CredentialsError where
  | undecodable (cause : DecodeError)
  | emptyUri
  | emptyUser
  | emptyDatabase
  | zeroBatchSize
deriving DecidableEq, Repr

def CredentialsError.message : CredentialsError → String
  | undecodable cause => cause.message
  | emptyUri => "neo4j_uri is empty"
  | emptyUser => "neo4j_user is empty"
  | emptyDatabase => "neo4j_database is empty"
  | zeroBatchSize => "max_batch_size must be greater than zero"

namespace Config

def defaultBatchSize : Nat := 500

def defaultDatabase : String := "neo4j"

def defaultUser : String := "neo4j"

/-- The config with the given credentials and defaults for the rest. -/
def ofCredentials (uri user password : String) : Config where
  uri := uri
  password := password
  user := user
  database := defaultDatabase
  maxBatchSize := defaultBatchSize
  overwrite := false

open Json.Decode in
def shape : Shape Config where
  name := "Neo4jConfig"
  strict := true
  blank := ofCredentials "" defaultUser ""
  parts := [
    .of "neo4j_uri" .required string fun v c => { c with uri := v },
    .of "neo4j_password" .required string fun v c => { c with password := v },
    .of "neo4j_user" .defaulted string fun v c => { c with user := v },
    .of "neo4j_database" .defaulted string fun v c => { c with database := v },
    .of "max_batch_size" .defaulted size fun v c => { c with maxBatchSize := v },
    .of "overwrite" .defaulted bool fun v c => { c with overwrite := v }]

def toJson (c : Config) : Json :=
  .ofEntries [
    ("neo4j_uri", .string c.uri),
    ("neo4j_password", .string c.password),
    ("neo4j_user", .string c.user),
    ("neo4j_database", .string c.database),
    ("max_batch_size", .nat c.maxBatchSize),
    ("overwrite", .bool c.overwrite)]

/-- Checks that address, user and database are not vacant and batches hold something. -/
def validate (c : Config) : Except CredentialsError Unit :=
  if Text.isVacant c.uri then .error .emptyUri
  else if Text.isVacant c.user then .error .emptyUser
  else if Text.isVacant c.database then .error .emptyDatabase
  else if c.maxBatchSize = 0 then .error .zeroBatchSize
  else .ok ()

def ofJson (j : Json) : Except CredentialsError Config :=
  match shape.decode j with
  | .error cause => .error (.undecodable cause)
  | .ok c => c.validate.map fun _ => c

end Config
end GraphLoad
