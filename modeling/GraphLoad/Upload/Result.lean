import GraphLoad.Cypher.Statement
import GraphLoad.Time.Rfc3339

/-!
The account of an upload: how many statements there are, how many succeeded and what they wrote, the
errors of the others, and how long it takes. Fractions and rates are 64-bit numbers. So are counters,
which are natural numbers here: the two agree as long as the sums stay below `2 ^ 64`.
-/

namespace GraphLoad

/-- The progress or outcome of an upload. The records counted are statements. -/
structure UploadResult where
  startedAt : Instant
  finishedAt : Option Instant
  secondsToComplete : Option Decimal
  recordsTotal : Nat
  recordsCompleted : Nat
  nodesCreated : Nat
  relationshipsCreated : Nat
  propertiesSet : Nat
  wasSuccessful : Bool
  errorMessage : String
deriving DecidableEq, Repr

namespace UploadResult

def start (startedAt : Instant) (recordsTotal : Nat) : UploadResult where
  startedAt := startedAt
  finishedAt := none
  secondsToComplete := none
  recordsTotal := recordsTotal
  recordsCompleted := 0
  nodesCreated := 0
  relationshipsCreated := 0
  propertiesSet := 0
  wasSuccessful := false
  errorMessage := ""

variable (r : UploadResult)

/-- A statement succeeded and wrote this much. -/
def addCounters (c : Counters) : UploadResult :=
  { r with
    nodesCreated := r.nodesCreated + c.nodesCreated
    relationshipsCreated := r.relationshipsCreated + c.relationshipsCreated
    propertiesSet := r.propertiesSet + c.propertiesSet
    recordsCompleted := r.recordsCompleted + 1 }

/-- Something failed. Earlier errors are kept, each on its line. -/
def pushError (message : String) : UploadResult :=
  { r with
    errorMessage :=
      (if r.errorMessage.isEmpty then "" else r.errorMessage ++ "\n") ++ message
    wasSuccessful := false }

/-- The seconds between two points, to the millisecond. -/
def secondsBetween (start stop : Instant) : Decimal :=
  let ms := stop.millisecondsSince start
  Binary64.shortest (ms < 0) (.div (.ofNat ms.natAbs) (.ofNat 1000))

/-- The upload ends; it was successful if there is no error. -/
def finish (finishedAt : Instant) : UploadResult :=
  { r with
    finishedAt := some finishedAt
    secondsToComplete := some (secondsBetween r.startedAt finishedAt)
    wasSuccessful := r.errorMessage.isEmpty }

/-- The part of the statements that succeeded, rounded to hundredths; zero if there are none. -/
def fractionCompleted : Binary64 :=
  if r.recordsTotal = 0 then .zero
  else
    let part := Binary64.div (.ofNat r.recordsCompleted) (.ofNat r.recordsTotal)
    .div (.ofNat (part.mul (.ofNat 100)).round) (.ofNat 100)

/-- The part that succeeded, in the form in which it is written. -/
def floatCompleted : Decimal :=
  r.fractionCompleted.shortest false

/-- The part that succeeded in percent. -/
def percent : Nat :=
  (r.fractionCompleted.mul (.ofNat 100)).round

def maxProjection : Nat := Nat.pow 2 63 - 1

/-- The seconds that the rest takes at the rate so far: -1 while nothing has succeeded or no time
has passed, 0 once nothing is left. -/
def projectedSeconds (now : Instant) : Int :=
  let ms := now.millisecondsSince r.startedAt
  if r.recordsCompleted = 0 then -1
  else if r.recordsTotal ≤ r.recordsCompleted then 0
  else if ms ≤ 0 then -1
  else
    let elapsed := Binary64.div (.ofNat ms.natAbs) (.ofNat 1000)
    let rate := Binary64.div (.ofNat r.recordsCompleted) elapsed
    let remaining := Binary64.ofNat (r.recordsTotal - r.recordsCompleted)
    min (remaining.div rate).floor maxProjection

/-- The time at which the rest is projected to be done, unless it lies beyond the range of dates. -/
def projectedTime (now : Instant) : Option Instant :=
  now.addSeconds? (r.projectedSeconds now).toNat

open Json.Decode in
def shape : Shape UploadResult where
  name := "UploadResult"
  strict := false
  blank := start ⟨0, 0⟩ 0
  parts := [
    .of "started_at" .required time fun v r => { r with startedAt := v },
    .of "finished_at" .nullable (optional time) fun v r => { r with finishedAt := v },
    .of "seconds_to_complete" .nullable (optional real) fun v r =>
      { r with secondsToComplete := v },
    .of "records_total" .required size fun v r => { r with recordsTotal := v },
    .of "records_completed" .required size fun v r => { r with recordsCompleted := v },
    .of "nodes_created" .required counter fun v r => { r with nodesCreated := v },
    .of "relationships_created" .required counter fun v r => { r with relationshipsCreated := v },
    .of "properties_set" .required counter fun v r => { r with propertiesSet := v },
    .of "was_successful" .required bool fun v r => { r with wasSuccessful := v },
    .of "error_message" .required string fun v r => { r with errorMessage := v }]

def toJson : Json :=
  .ofEntries [
    ("started_at", .string r.startedAt.text),
    ("finished_at", .orNull (r.finishedAt.map (.string ·.text))),
    ("seconds_to_complete", .orNull (r.secondsToComplete.map (.number <| .real ·))),
    ("records_total", .nat r.recordsTotal),
    ("records_completed", .nat r.recordsCompleted),
    ("nodes_created", .nat r.nodesCreated),
    ("relationships_created", .nat r.relationshipsCreated),
    ("properties_set", .nat r.propertiesSet),
    ("was_successful", .bool r.wasSuccessful),
    ("error_message", .string r.errorMessage)]

end UploadResult

open Json.Decode in
def Counters.shape : Shape Counters where
  name := "Counters"
  strict := false
  blank := ⟨0, 0, 0⟩
  parts := [
    .of "nodes_created" .required counter fun v c => { c with nodesCreated := v },
    .of "relationships_created" .required counter fun v c => { c with relationshipsCreated := v },
    .of "properties_set" .required counter fun v c => { c with propertiesSet := v }]

def Counters.toJson (c : Counters) : Json :=
  .ofEntries [
    ("nodes_created", .nat c.nodesCreated),
    ("relationships_created", .nat c.relationshipsCreated),
    ("properties_set", .nat c.propertiesSet)]

end GraphLoad
