import GraphLoad.Proofs.Record.Landing
import GraphLoad.Proofs.Specification.Completeness

/-!
# Groups that are left as they are

A group is left as it is exactly if the walk along neither record key stands on a list in the first record
(`expand_eq_self_iff`). An endpoint is found under the whole record key or by a walk that may read an index,
so it can be found although its walk stands on a list; then the group is expanded all the same
(`found_endpoints_moved`). Under a key without a dot this cannot happen (`Record.CrossesList.found`).
-/

namespace GraphLoad

open GraphLoad.Path

/-! ## Walks that stand on a list -/

namespace Record

/-- The walk along the record key stands on a list after some of its segments. -/
def CrossesList (r : Record) (key : String) : Prop :=
  key ≠ "" ∧ ∃ before after items, before ≠ [] ∧ segments key = before ++ after ∧
    walk before (.object r) = some (.array items)

variable {r : Record} {key : String} {v : Json}

/-- A key under which a scalar stands, though the walk along it stands on a list, has a dot in it. The
scalar was found under the whole key, or some segment of it reads as an index. -/
theorem CrossesList.found (h : r.CrossesList key) (hv : r.endpointValue? key = some v) :
    '.' ∈ key.toList ∧ (Fields.get? r key = some v ∨ ∃ s ∈ segments key, (index? s).isSome) := by
  obtain ⟨-, before, after, items, hne, hsegs, hwalk⟩ := h
  rw [endpointValue?_eq] at hv
  obtain ⟨hscalar, hfound⟩ := scalarAt?_eq_some_iff.mp hv
  have no_list : walk (segments key) (.object r) = some v → after ≠ [] := by
    rintro hv rfl
    rw [hsegs, List.append_nil, hwalk] at hv
    obtain rfl := Option.some.inj hv
    cases hscalar
  constructor
  · by_contra hdot
    have hplain := segments_of_dot_not_mem hdot
    have hflat : walk (segments key) (.object r) = some v := by
      rcases hfound with hflat | ⟨-, hwalk⟩
      · rw [hplain, walk, child?, hflat]
        rfl
      · exact hwalk
    obtain ⟨s, others, rfl⟩ := List.exists_cons_of_ne_nil hne
    obtain ⟨t, more, rfl⟩ := List.exists_cons_of_ne_nil (no_list hflat)
    rw [hplain] at hsegs
    simp at hsegs
  · refine hfound.imp_right fun hwalked => ?_
    have hv := hwalked.2
    obtain ⟨s, others, rfl⟩ := List.exists_cons_of_ne_nil (no_list hv)
    rw [hsegs, walk_append, hwalk, Option.bind_some, walk] at hv
    obtain ⟨c, hc, -⟩ := Option.bind_eq_some_iff.mp hv
    obtain ⟨i, hi, -⟩ := Option.bind_eq_some_iff.mp hc
    exact ⟨s, hsegs ▸ List.mem_append_right _ List.mem_cons_self, Option.isSome_of_eq_some hi⟩

end Record

/-! ## Groups -/

namespace RelationshipGroup

variable {g g' : RelationshipGroup} {m : Nat}

theorem listOn?_eq_none_iff {r : Record} {side : Side} :
    g.listOn? r side = none ↔ ¬r.CrossesList (g.endpoint side).recordKey := by
  rw [listOn?, Record.CrossesList, ← firstList_ne_none_iff]
  simp only [String.isEmpty_iff]
  split
  · rename_i hempty
    simp [hempty]
  · rename_i hne
    rw [Option.map_eq_none_iff, and_iff_right hne, not_not]

/-- A group is left as it is exactly if in the first record the walk to neither end stands on a list: the
rounds only end at a group of which that is so. -/
theorem expand_eq_self_iff :
    g.expand = .ok g ↔ ∀ first, g.records.head? = some first →
      ∀ side, ¬first.CrossesList (g.endpoint side).recordKey := by
  simp only [← listOn?_eq_none_iff, ← nextList?_eq_none_iff]
  exact ⟨nextList?_eq_none_of_expand, expand_of_nextList?_eq_none⟩

/-- Both endpoints of every record are found under their record keys. -/
def Found (g : RelationshipGroup) : Prop :=
  ∀ r ∈ g.records, (r.endpointValue? g.source.recordKey).isSome ∧
    (r.endpointValue? g.target.recordKey).isSome

instance (g : RelationshipGroup) : Decidable g.Found :=
  inferInstanceAs (Decidable (∀ r ∈ _, _))

theorem Found.exists_value (h : g.Found) {r : Record} (hr : r ∈ g.records) (side : Side) :
    ∃ v, r.endpointValue? (g.endpoint side).recordKey = some v := by
  rw [← Option.isSome_iff_exists]
  cases side with
  | source => exact (h r hr).1
  | target => exact (h r hr).2

/-- Each record is usable, and its row ends at the values that are found. -/
theorem Found.ends_row (h : g.Found) {r : Record} (hr : r ∈ g.records) :
    g.usable r ∧ ∃ v w, r.endpointValue? g.source.recordKey = some v ∧
      r.endpointValue? g.target.recordKey = some w ∧ (g.row r).ends = [v, w] := by
  obtain ⟨v, hv⟩ := h.exists_value hr .source
  obtain ⟨w, hw⟩ := h.exists_value hr .target
  have hsource : r.scalarAt? g.source.recordKey = some v := (r.endpointValue?_eq _).symm.trans hv
  have htarget : r.scalarAt? g.target.recordKey = some w := (r.endpointValue?_eq _).symm.trans hw
  have hends : (g.row r).ends = (r.scalarAt? g.source.recordKey).toList ++
      (r.scalarAt? g.target.recordKey).toList := rfl
  rw [usable, hends, hsource, htarget]
  exact ⟨rfl, v, w, hv, hw, rfl⟩

/-- Where both endpoints of every record are found, the group is left as it is exactly if the walk to
neither end stands on a list in the first record. If it does, though the value is found, then the key has
a dot in it, and either the value stands under the whole key or a segment of the key reads as an index. A
group that is left as it is is compiled to rows that end at the values found. -/
theorem found_endpoints_stay_iff (hfound : g.Found)
    (hproper : ∀ r ∈ g.records, Json.Proper (.object r)) :
    (g.expand = .ok g ↔ ∀ first, g.records.head? = some first →
      ∀ side, ¬first.CrossesList (g.endpoint side).recordKey) ∧
    (∀ first, g.records.head? = some first → ∀ side, first.CrossesList (g.endpoint side).recordKey →
      ∃ v, first.endpointValue? (g.endpoint side).recordKey = some v ∧
        '.' ∈ (g.endpoint side).recordKey.toList ∧
        (Fields.get? first (g.endpoint side).recordKey = some v ∨
          ∃ s ∈ segments (g.endpoint side).recordKey, (index? s).isSome)) ∧
    (g.expand = .ok g → ∀ m, 0 < m →
      ∃ statements, g.statements m = .ok statements ∧ g.Carried m statements ∧
        ∀ r ∈ g.records, g.usable r ∧ ∃ v w, r.endpointValue? g.source.recordKey = some v ∧
          r.endpointValue? g.target.recordKey = some w ∧ (g.row r).ends = [v, w]) := by
  refine ⟨expand_eq_self_iff, fun first hfirst side hcrosses => ?_, fun hexpand m hm => ?_⟩
  · obtain ⟨v, hv⟩ := hfound.exists_value (List.mem_of_mem_head? hfirst) side
    exact ⟨v, hv, hcrosses.found hv⟩
  · obtain ⟨statements, hstatements, hcarried⟩ := exists_statements hm hexpand hproper
    exact ⟨statements, hstatements, hcarried, fun _ => hfound.ends_row⟩

/-- A flat key with a dot, and a walk through an object: nothing is expanded, and the row ends at the flat
value. -/
theorem found_endpoints_stay :
    let g : RelationshipGroup := ⟨"KNOWS", ⟨none, "uid", "from.id"⟩, ⟨none, "uid", "to.uid"⟩,
      [[("from", .object [("id", .string "nested")]), ("from.id", .string "flat"),
        ("to", .object [("uid", .string "b")])]], [], true, true⟩
    g.Found ∧ g.expand = .ok g ∧ ∃ statements, g.statements 500 = .ok statements ∧
      Statement.rows? statements = some (g.records.map g.row) ∧
        g.records.map (fun r => (g.row r).ends) = [[.string "flat", .string "b"]] := by
  intro g
  have hfound : g.Found := by decide
  have hproper : ∀ r ∈ g.records, Json.Proper (.object r) := by
    simp [g, Json.Proper, Json.everywhere_object_iff, Fields.keys, or_imp, forall_and,
      Json.Everywhere.string]
  obtain ⟨hiff, -, hrows⟩ := found_endpoints_stay_iff hfound hproper
  have hexpand : g.expand = .ok g := by
    refine hiff.mpr fun first hfirst side => listOn?_eq_none_iff.mp ?_
    obtain rfl := Option.some.inj hfirst
    cases side <;> decide
  obtain ⟨statements, hstatements, hcarried, -⟩ := hrows hexpand 500 (by decide)
  exact ⟨hfound, hexpand, statements, hstatements, hcarried.rows.trans (by decide +kernel), by decide⟩

/-- A flat key with a dot beside a list on the path that it spells. -/
def beside : RelationshipGroup :=
  ⟨"KNOWS", ⟨none, "uid", "from"⟩, ⟨none, "uid", "to.id"⟩,
    [[("from", .string "a"), ("to", .array [.object [("id", .string "x")]]), ("to.id", .string "b")]],
    [], true, true⟩

/-- A key that picks an element of a list. -/
def indexed : RelationshipGroup :=
  ⟨"KNOWS", ⟨none, "uid", "from"⟩, ⟨none, "uid", "friends.0.uid"⟩,
    [[("friends", .array [.object [("uid", .string "x")]]), ("from", .string "a")]], [], true, true⟩

/-- Endpoints that are found do not keep a group from being expanded: beside a list the relationship ends
at an element of the list, and with an index in the key it is lost. -/
theorem found_endpoints_moved :
    (beside.Found ∧ beside.expand ≠ .ok beside ∧ ∃ g', beside.expand = .ok g' ∧
      beside.records.map (fun r => (beside.row r).ends) = [[.string "a", .string "b"]] ∧
      g'.records.map (fun r => (g'.row r).ends) = [[.string "a", .string "x"]]) ∧
    (indexed.Found ∧ indexed.expand ≠ .ok indexed ∧ ∃ g', indexed.expand = .ok g' ∧
      indexed.records.map (fun r => (indexed.row r).ends) = [[.string "a", .string "x"]] ∧
      ∀ r ∈ g'.records, g'.usable r = false) := by
  have expand_round : ∀ {g : RelationshipGroup} {p : ListPlace}, g.nextList? = some p →
      p.rest ≠ "" ∧ (∀ r ∈ g.records, r.heldAt p.path ≠ .other) →
      (g.round p).nextList? = none → g.expand = .ok (g.round p) := by
    intro g p hnext h hnone
    rw [expand_of_expandAt hnext (expandAt_eq_ok_iff.mpr ⟨h.1, h.2, rfl⟩),
      expand_of_nextList?_eq_none hnone]
  have hbeside : beside.expand = .ok (beside.round ⟨.target, "to", "id"⟩) :=
    expand_round (by decide) ⟨by decide, by decide⟩ (by decide)
  have hindexed : indexed.expand = .ok (indexed.round ⟨.target, "friends", "0.uid"⟩) :=
    expand_round (by decide) ⟨by decide, by decide⟩ (by decide)
  rw [hbeside, hindexed]
  refine ⟨⟨by decide, ?_, _, rfl, by decide, by decide⟩, ⟨by decide, ?_, _, rfl, by decide, by decide⟩⟩
  · exact fun h => absurd (Except.ok.inj h) (by decide)
  · exact fun h => absurd (Except.ok.inj h) (by decide)

end RelationshipGroup
end GraphLoad
