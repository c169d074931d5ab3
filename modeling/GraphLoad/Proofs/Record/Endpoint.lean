import GraphLoad.Cypher.RelationshipBatch
import GraphLoad.Proofs.Json.Entries

/-!
# Where an endpoint is found

`Record.endpointValue?_eq`: an endpoint is the scalar under the whole record key, or else the one
that the walk along the key leads to.
-/

namespace GraphLoad

namespace Json

/-- A value other than `null` that a property can hold as it is. -/
def isScalar : Json → Bool
  | .null | .array _ | .object _ => false
  | .bool _ | .number _ | .string _ => true

theorem isNull_of_isScalar {j : Json} (h : j.isScalar) : j.isNull = false := by
  cases j <;> simp_all [isScalar, isNull]

end Json

namespace Path

theorem resolve_eq {path : String} (h : path ≠ "") (data : Json) :
    resolve path data = present (walk (segments path) data) :=
  if_neg fun hempty => h (String.isEmpty_iff.mp hempty)

theorem resolveIn_eq (path : String) (record : Record) :
    resolveIn path record = present (walk (segments path) (.object record)) := by
  rw [resolveIn]
  cases hsegs : segments path with
  | nil => exact absurd hsegs (segments_ne_nil path)
  | cons first rest => rfl

end Path

namespace Record

/-- The value under the whole key if it is not `null`, else the one that the walk along the key
leads to; none if it is no scalar. -/
def scalarAt? (record : Record) (key : String) : Option Json :=
  (((Fields.get? record key).filter (!·.isNull)).or
    (Path.walk (Path.segments key) (.object record))).filter Json.isScalar

theorem endpointValue?_eq (record : Record) (key : String) :
    record.endpointValue? key = record.scalarAt? key := by
  rw [endpointValue?, scalarAt?, Path.resolveIn_eq, Path.present, Path.present]
  cases hflat : (Fields.get? record key).filter (!·.isNull) with
  | some v =>
    have hv := (Option.filter_eq_some_iff.mp hflat).2
    rw [Option.some_or, Option.some_or]
    cases v with
    | null => exact absurd hv (by decide)
    | bool | number | string | array | object => rfl
  | none =>
    rw [Option.none_or, Option.none_or]
    cases Path.walk (Path.segments key) (.object record) with
    | none => rfl
    | some v => cases v <;> rfl

theorem scalarAt?_eq_some_iff {record : Record} {key : String} {value : Json} :
    record.scalarAt? key = some value ↔ value.isScalar ∧
      (Fields.get? record key = some value ∨ (Fields.get? record key).all Json.isNull ∧
        Path.walk (Path.segments key) (.object record) = some value) := by
  rw [scalarAt?, Option.filter_eq_some_iff, and_comm]
  apply and_congr_right
  intro hvalue
  have hnull := Json.isNull_of_isScalar hvalue
  cases hflat : Fields.get? record key with
  | none => simp
  | some v =>
    cases hv : v.isNull with
    | true =>
      have hne : v ≠ value := by
        rintro rfl
        simp [hv] at hnull
      simp [hv, hne]
    | false => simpa [hv] using fun h : v = value => h ▸ hv

end Record
end GraphLoad
