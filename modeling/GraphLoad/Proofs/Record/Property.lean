import GraphLoad.Proofs.Json.Entries
import GraphLoad.Record.Property

/-!
# Properties of a record

The properties that a record gives are some of its fields, in its order and under its keys. Dropping
repeated records leaves some of them, in order.
-/

namespace GraphLoad

namespace Property

theorem mem_of {exclude : List String} {record : Record} {name : String} {value : Json} :
    (name, value) ∈ of exclude record ↔
      ∃ v, (name, v) ∈ record ∧ name ∉ exclude ∧ isBlank v = false ∧ value = bindable v := by
  rw [of, List.mem_map]
  constructor
  · rintro ⟨⟨k, v⟩, hmem, he⟩
    obtain ⟨rfl, rfl⟩ := Prod.mk.inj he
    obtain ⟨hr, hkept⟩ := List.mem_filter.mp hmem
    simp only [Bool.and_eq_true, Bool.not_eq_true', List.contains_eq_mem,
      decide_eq_false_iff_not] at hkept
    exact ⟨v, hr, hkept.1, hkept.2, rfl⟩
  · rintro ⟨v, hr, hname, hv, rfl⟩
    exact ⟨(name, v), List.mem_filter.mpr ⟨hr, by simp [hname, hv]⟩, rfl⟩

theorem keys_of_sublist (exclude : List String) (record : Record) :
    (Fields.keys (of exclude record)).Sublist (Fields.keys record) := by
  rw [Fields.keys, of, List.map_map]
  exact List.filter_sublist.map Prod.fst

theorem nodup_keys_of {exclude : List String} {record : Record} (h : (Fields.keys record).Nodup) :
    (Fields.keys (of exclude record)).Nodup :=
  h.sublist (keys_of_sublist exclude record)

theorem of_eq_filterMap (exclude : List String) (record : Record) :
    of exclude record = record.filterMap fun (name, value) =>
      if name ∈ exclude ∨ isBlank value then none else some (name, bindable value) := by
  rw [of, ← List.filterMap_eq_map, ← List.filterMap_eq_filter, List.filterMap_filterMap]
  congr 1
  funext ⟨name, value⟩
  by_cases hname : name ∈ exclude <;> cases hv : isBlank value <;> simp [hname, hv]

end Property

namespace Record

private theorem distinctFrom_sublist (seen : List String) (records : List Record) :
    (distinctFrom seen records).Sublist records := by
  induction records generalizing seen with
  | nil => exact List.Sublist.refl _
  | cons r rs ih =>
    rw [distinctFrom]
    split
    · exact (ih seen).cons r
    · exact (ih _).cons_cons r

theorem distinct_sublist (records : List Record) : (distinct records).Sublist records :=
  distinctFrom_sublist [] records

theorem candidates_sublist (dedupe : Bool) (records : List Record) :
    (if dedupe then distinct records else records).Sublist records := by
  cases dedupe with
  | false => exact .refl records
  | true => exact distinct_sublist records

theorem mem_of_mem_candidates {dedupe : Bool} {records : List Record} {r : Record}
    (h : r ∈ if dedupe then distinct records else records) : r ∈ records :=
  (candidates_sublist dedupe records).mem h

end Record
end GraphLoad
