import GraphLoad.Proofs.Json.Arranged
import GraphLoad.Proofs.Json.Writing
import Mathlib.Data.List.Induction

/-!
# Dropping repeated records

A record at the end of a list is dropped exactly when it stands there already
(`distinct_append_singleton`), and every law of `distinct` is an induction from the end of a list.
Records are told apart by their texts, and these are equal exactly when the records are the same
whatever the order of their fields, so the first of each is what is left (`distinct_keeps_firsts`).
-/

namespace GraphLoad.Record

/-! ## One more record -/

private theorem distinctFrom_append_singleton (seen : List String) (records : List Record)
    (r : Record) :
    distinctFrom seen (records ++ [r]) =
      if canonical r ∈ seen ∨ r ∈ records then distinctFrom seen records
      else distinctFrom seen records ++ [r] := by
  induction records generalizing seen with
  | nil => simp [distinctFrom]
  | cons x records ih =>
    rw [List.cons_append, distinctFrom, distinctFrom]
    by_cases hx : canonical x ∈ seen
    · have hmem : canonical r ∈ seen ∨ r ∈ records ↔ canonical r ∈ seen ∨ r ∈ x :: records := by
        rw [List.mem_cons]
        constructor
        · exact Or.imp_right .inr
        · rintro (h | rfl | h)
          · exact .inl h
          · exact .inl hx
          · exact .inr h
      rw [if_pos (List.contains_iff_mem.mpr hx), if_pos (List.contains_iff_mem.mpr hx), ih]
      simp only [hmem]
    · have hmem : canonical r ∈ canonical x :: seen ∨ r ∈ records ↔
          canonical r ∈ seen ∨ r ∈ x :: records := by
        rw [List.mem_cons, List.mem_cons, canonical_injective.eq_iff, or_assoc, or_left_comm]
      rw [if_neg (mt List.contains_iff_mem.mp hx), if_neg (mt List.contains_iff_mem.mp hx), ih]
      simp only [hmem]
      split
      · rfl
      · exact List.cons_append.symm

theorem distinct_append_singleton (records : List Record) (r : Record) :
    distinct (records ++ [r]) = if r ∈ records then distinct records else distinct records ++ [r] := by
  rw [distinct, distinctFrom_append_singleton]
  simp only [List.not_mem_nil, false_or]
  rfl

/-! ## Laws -/

theorem nodup_distinct (records : List Record) : (distinct records).Nodup := by
  induction records using List.reverseRecOn with
  | nil => exact List.nodup_nil
  | append_singleton records r ih =>
    rw [distinct_append_singleton]
    split
    · exact ih
    · rename_i hr
      exact ih.append (List.nodup_singleton r) (by simpa [mem_distinct] using hr)

theorem distinct_of_nodup {records : List Record} (h : records.Nodup) :
    distinct records = records := by
  induction records using List.reverseRecOn with
  | nil => rfl
  | append_singleton records r ih =>
    obtain ⟨hrecords, -, hr⟩ := List.nodup_append.mp h
    rw [distinct_append_singleton, if_neg fun hmem => hr r hmem r List.mem_cons_self rfl, ih hrecords]

/-- A second pass finds nothing to drop. -/
theorem distinct_distinct (records : List Record) : distinct (distinct records) = distinct records :=
  distinct_of_nodup (nodup_distinct records)

/-- What was dropped before has no influence on what comes later. -/
theorem distinct_append (a b : List Record) : distinct (a ++ b) = distinct (distinct a ++ b) := by
  induction b using List.reverseRecOn with
  | nil => rw [List.append_nil, List.append_nil, distinct_distinct]
  | append_singleton b r ih =>
    have hmem : r ∈ distinct a ++ b ↔ r ∈ a ++ b := by
      rw [List.mem_append, List.mem_append, mem_distinct]
    rw [← List.append_assoc, ← List.append_assoc, distinct_append_singleton,
      distinct_append_singleton, ih]
    simp only [hmem]

/-! ## Records in any order -/

/-- The record with the fields of every object in order, as it is held. -/
def arrange (r : Record) : Record :=
  Fields.ofList (Fields.mapValues Json.arrange r)

/-- Whether two records are the same, wherever their fields stand. -/
def same (r t : Record) : Bool :=
  (Json.object r).same (.object t)

/-- The records that are not the same as an earlier one, in order. -/
def firsts (records : List Record) : List Record :=
  (records.zipIdx.filter fun x => !(records.take x.2).any (same · x.1)).map Prod.fst

theorem arrange_eq {r : Record} (h : Json.Arranged (.object r)) : arrange r = r := by
  have harrange := h.arrange_eq
  rw [Json.arrange_object] at harrange
  exact Json.object.inj harrange

theorem same_iff_arrange_eq {r t : Record} (hr : Json.Proper (.object r))
    (ht : Json.Proper (.object t)) : same r t ↔ arrange r = arrange t := by
  rw [same, Json.same_iff_arrange_eq hr ht, Json.arrange_object, Json.arrange_object, Json.ofEntries,
    Json.ofEntries, Json.object.injEq]
  rfl

/-- Records have one text if and only if they are the same, wherever their fields stand. -/
theorem canonical_arrange_eq_iff {r t : Record} (hr : Json.Proper (.object r))
    (ht : Json.Proper (.object t)) : canonical (arrange r) = canonical (arrange t) ↔ same r t := by
  rw [canonical_injective.eq_iff, same_iff_arrange_eq hr ht]

theorem firsts_sublist (records : List Record) : (firsts records).Sublist records := by
  have h : (firsts records).Sublist (records.zipIdx.map Prod.fst) := List.filter_sublist.map Prod.fst
  rwa [List.zipIdx_map_fst] at h

theorem firsts_append_singleton (records : List Record) (r : Record) :
    firsts (records ++ [r]) =
      if records.any (same · r) then firsts records else firsts records ++ [r] := by
  have hbefore : ∀ x ∈ records.zipIdx, (!((records ++ [r]).take x.2).any (same · x.1)) =
      !(records.take x.2).any (same · x.1) := by
    intro x hx
    have hle : x.2 ≤ records.length := Nat.le_of_lt (by simpa using (List.mem_zipIdx hx).2.1)
    rw [List.take_append_of_le_length hle]
  have hlast : (records ++ [r]).take records.length = records := List.take_left
  rw [firsts, List.zipIdx_append, List.filter_append, List.map_append, List.filter_congr hbefore,
    ← firsts, Nat.zero_add, List.zipIdx_singleton, List.filter_singleton, hlast]
  cases records.any (same · r) with
  | true => exact List.append_nil _
  | false => rfl

variable {records : List Record}

theorem distinct_map_arrange (h : ∀ r ∈ records, Json.Proper (.object r)) :
    distinct (records.map arrange) = (firsts records).map arrange := by
  induction records using List.reverseRecOn with
  | nil => rfl
  | append_singleton records r ih =>
    obtain ⟨hrecords, hr⟩ := List.forall_mem_append.mp h
    have hmem : arrange r ∈ records.map arrange ↔ records.any (same · r) := by
      rw [List.mem_map, List.any_eq_true]
      refine exists_congr fun t => and_congr_right fun ht => ?_
      rw [same_iff_arrange_eq (hrecords t ht) (hr r List.mem_cons_self)]
    rw [List.map_append, List.map_singleton, distinct_append_singleton, firsts_append_singleton,
      ih hrecords]
    simp only [hmem]
    split
    · rfl
    · rw [List.map_append, List.map_singleton]

/-- Of records that are held in order those that are not equal to an earlier one are left. -/
theorem distinct_eq_firsts (h : ∀ r ∈ records, Json.Arranged (.object r)) :
    distinct records = firsts records := by
  have map_arrange : ∀ l : List Record, (∀ r ∈ l, r ∈ records) → l.map arrange = l := by
    intro l hl
    rw [List.map_congr_left fun r hr => arrange_eq (h r (hl r hr)), List.map_id']
  have hdistinct := distinct_map_arrange fun r hr => (h r hr).proper
  rwa [map_arrange records fun _ hr => hr,
    map_arrange (firsts records) fun _ hr => (firsts_sublist records).mem hr] at hdistinct

theorem pairwise_firsts (h : ∀ r ∈ records, Json.Proper (.object r)) :
    (firsts records).Pairwise fun r t => ¬same r t := by
  have hnodup := nodup_distinct (records.map arrange)
  rw [distinct_map_arrange h] at hnodup
  refine (List.pairwise_map.mp hnodup).imp_of_mem fun {r t} hr ht hne hsame => ?_
  have proper : ∀ r ∈ firsts records, Json.Proper (.object r) := fun r hr =>
    h r ((firsts_sublist records).mem hr)
  exact hne ((same_iff_arrange_eq (proper r hr) (proper t ht)).mp hsame)

theorem exists_first (h : ∀ r ∈ records, Json.Proper (.object r)) {r : Record} (hr : r ∈ records) :
    ∃ t ∈ firsts records, same t r := by
  have hmem : arrange r ∈ distinct (records.map arrange) := mem_distinct.mpr (List.mem_map_of_mem hr)
  rw [distinct_map_arrange h] at hmem
  obtain ⟨t, ht, heq⟩ := List.mem_map.mp hmem
  exact ⟨t, ht, (same_iff_arrange_eq (h t ((firsts_sublist records).mem ht)) (h r hr)).mpr heq⟩

/-- Two records have one text if and only if they are the same, wherever their fields stand. Dropping
repeated records leaves those that are not the same as an earlier one, in order: no two of them are
the same, and each record is the same as one of them. A second pass changes nothing, and neither does
a pass over the records in front of others. -/
theorem distinct_keeps_firsts (h : ∀ r ∈ records, Json.Proper (.object r)) :
    (∀ r ∈ records, ∀ t ∈ records, canonical (arrange r) = canonical (arrange t) ↔ same r t) ∧
    distinct (records.map arrange) = (firsts records).map arrange ∧
    (firsts records).Sublist records ∧ (firsts records).Pairwise (fun r t => ¬same r t) ∧
    (∀ r ∈ records, ∃ t ∈ firsts records, same t r) ∧
    distinct (distinct (records.map arrange)) = distinct (records.map arrange) ∧
    ∀ more, distinct (records.map arrange ++ more) = distinct (distinct (records.map arrange) ++ more) :=
  ⟨fun r hr t ht => canonical_arrange_eq_iff (h r hr) (h t ht), distinct_map_arrange h,
    firsts_sublist records, pairwise_firsts h, fun _ => exists_first h, distinct_distinct _,
    distinct_append _⟩

/-- Five ways to give a value, and a record that is given twice with its fields in another order. -/
def lookalikes : List Record :=
  [[("a", .nat 1)], [("a", .number (.real ⟨false, 1, 0, .inl (by decide)⟩))], [("a", .string "1")],
    [("a", .string "1,\"b\":\x7b\x7d")], [("a", .null)],
    [("b", .object [("y", .array [.object [("q", .nat 1), ("p", .nat 2)]]), ("x", .null)]), ("a", .nat 1)],
    [("a", .nat 1), ("b", .object [("x", .null), ("y", .array [.object [("p", .nat 2), ("q", .nat 1)]])])]]

/-- Only the last record is dropped. -/
theorem distinct_lookalikes : (∀ r ∈ lookalikes, Json.Proper (.object r)) ∧
    distinct (lookalikes.map arrange) = (lookalikes.take 6).map arrange := by
  have h : ∀ r ∈ lookalikes, Json.Proper (.object r) := by
    simp [lookalikes, Json.nat, Json.Proper, Json.everywhere_object_iff, Json.everywhere_array_iff,
      Fields.keys, or_imp, forall_and, Json.Everywhere.string, Json.Everywhere.number,
      Json.Everywhere.null]
  obtain ⟨-, hdistinct, -⟩ := distinct_keeps_firsts h
  refine ⟨h, hdistinct.trans (congrArg (List.map arrange) ?_)⟩
  decide +kernel

end GraphLoad.Record
