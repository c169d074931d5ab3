import GraphLoad.Proofs.Record.Writing
import GraphLoad.Proofs.Specification.Round

/-!
# What is carried into an element

A round of expansion writes the value of one endpoint into each element of the list that the other
endpoint runs through. `carried_lookups_iff` says when both are found in the record made of the
element. Two things can go wrong (`Record.RoomFor`): a field of the element under the whole record
key hides the value, or the value is written across the way to the other endpoint.
-/

namespace GraphLoad

namespace Record

open GraphLoad.Path

/-- The segments along which a value is found: the whole key, if something other than `null` stands
under it. -/
def way (record : Record) (key : String) : List String :=
  if (Fields.get? record key).any (!·.isNull) then [key] else segments key

/-- A value can be written at a path into the element without being hidden by a field under the whole
path, and without disturbing the value that is found under another key. -/
def RoomFor (e : Record) (other : String) (v : Json) (key : String) (w : Json) : Prop :=
  (segments other = [other] ∨ (Fields.get? e other).all fun x => x.isNull ∨ x = v) ∧
    (meeting (segments other) (e.way key) (.object e) = .apart ∨
      meeting (segments other) (e.way key) (.object e) = .same ∧ v = w)

instance (e : Record) (other : String) (v : Json) (key : String) (w : Json) :
    Decidable (e.RoomFor other v key w) :=
  inferInstanceAs (Decidable (_ ∧ _))

variable {e : Record} {other key : String} {v w : Json}

theorem scalarAt?_takeIn (hv : v.isScalar) :
    (e.takeIn (some (other, v))).scalarAt? other = some v ↔
      segments other = [other] ∨ (Fields.get? e other).all fun x => x.isNull ∨ x = v := by
  obtain ⟨s, o, hsegs⟩ := List.exists_cons_of_ne_nil (segments_ne_nil other)
  have hs : segments s = [s] := segments_of_mem_segments (hsegs ▸ List.mem_cons_self)
  rw [scalarAt?_eq_some_iff, object_takeIn, walk_put_self, takeIn_eq_insert hsegs,
    Fields.get?_insert]
  by_cases hother : other = s
  · subst hother
    obtain ⟨-, rfl⟩ := List.cons.inj (hsegs.symm.trans hs)
    simp [hv, put, hs]
  · have hne : segments other ≠ [other] := by
      intro h
      rw [hsegs] at h
      exact hother (List.cons.inj h).1.symm
    rw [if_neg hother]
    cases Fields.get? e other with
    | none => simp [hv]
    | some x => simp [hv, hne, or_comm]

theorem scalarAt?_beside_takeIn (hv : v.isScalar) (hw : e.scalarAt? key = some w) :
    (e.takeIn (some (other, v))).scalarAt? key = some w ↔
      meeting (segments other) (e.way key) (.object e) = .apart ∨
        meeting (segments other) (e.way key) (.object e) = .same ∧ v = w := by
  obtain ⟨s, o, hsegs⟩ := List.exists_cons_of_ne_nil (segments_ne_nil other)
  have hget : ∀ k, Fields.get? (e.takeIn (some (other, v))) k =
      if k = s then some (put o v ((Fields.get? e s).getD .null)) else Fields.get? e k := by
    intro k
    rw [takeIn_eq_insert hsegs, Fields.get?_insert]
  obtain ⟨hscalar, hfound⟩ := scalarAt?_eq_some_iff.mp hw
  have hnull := Json.isNull_of_isScalar hscalar
  rcases hfound with hflat | ⟨habsent, hwalk⟩
  · -- found under the whole key, where something still stands after the write
    have hway : e.way key = [key] := by
      rw [way, hflat, Option.any_some, hnull]
      rfl
    have hread : walk [key] (.object e) = some w := by
      rw [walk, child?, hflat]
      rfl
    have hall : (Fields.get? (e.takeIn (some (other, v))) key).all Json.isNull = false := by
      rw [hget]
      split
      · rw [Option.all_some, isNull_put hv]
      · rw [hflat, Option.all_some, hnull]
    rw [hway, ← walk_put_eq_some_iff hv hscalar hread, ← object_takeIn, scalarAt?_eq_some_iff, walk,
      child?, hall]
    cases Fields.get? (e.takeIn (some (other, v))) key <;> simp [walk, hscalar]
  · -- found along the key, which then is not the one that is written under
    have hflat : Fields.get? e key ≠ some w := by
      intro h
      rw [h, Option.all_some, hnull] at habsent
      exact absurd habsent Bool.false_ne_true
    have hway : e.way key = segments key := by
      rw [way]
      split
      · rename_i h
        cases hk : Fields.get? e key <;> simp_all
      · rfl
    have hkey : key ≠ s := by
      rintro rfl
      rw [segments_of_mem_segments (hsegs ▸ List.mem_cons_self), walk, child?] at hwalk
      obtain ⟨x, hx, hxw⟩ := Option.bind_eq_some_iff.mp hwalk
      exact hflat (hx.trans hxw)
    rw [hway, ← walk_put_eq_some_iff hv hscalar hwalk, ← object_takeIn, scalarAt?_eq_some_iff, hget,
      if_neg hkey]
    simp [hscalar, hflat, habsent]

end Record

namespace RelationshipGroup

variable {g g' : RelationshipGroup} {p : ListPlace} {r e : Record} {items : List Json} {v w : Json}

/-- In a round of expansion an object of a list, in which the shortened key leads to a scalar, becomes
a record. The scalar and the value carried into it are both found there if and only if the object has
room for that value. -/
theorem carried_lookups_iff (hp : g.nextList? = some p) (hround : g.expandAt p = .ok g')
    (hr : r ∈ g.records) (hitems : r.heldAt p.path = .list items) (he : .object e ∈ items)
    (hv : r.endpointValue? (g.endpoint p.side.opposite).recordKey = some v)
    (hw : e.endpointValue? p.rest = some w) :
    g.expand = g'.expand ∧ ∃ e' ∈ g'.records,
      Record.carry (.object e) (some ((g.endpoint p.side.opposite).recordKey, v)) = .object e' ∧
      (e'.endpointValue? (g'.endpoint p.side.opposite).recordKey = some v ∧
        e'.endpointValue? (g'.endpoint p.side).recordKey = some w ↔
        e.RoomFor (g.endpoint p.side.opposite).recordKey v p.rest w) := by
  obtain ⟨-, -, rfl⟩ := expandAt_eq_ok_iff.mp hround
  refine ⟨expand_of_expandAt hp hround, ?_⟩
  have hcarried : r.carried (g.endpoint p.side.opposite).recordKey =
      some ((g.endpoint p.side.opposite).recordKey, v) := by
    rw [Record.carried, hv]
  refine ⟨e.takeIn (some ((g.endpoint p.side.opposite).recordKey, v)), ?_,
    Record.carry_object _ _, ?_⟩
  · rw [records_round, List.mem_filterMap]
    refine ⟨.object _, List.mem_flatMap.mpr ⟨r, hr, ?_⟩, rfl⟩
    rw [cut, hitems, hcarried]
    exact List.mem_map.mpr ⟨_, he, Record.carry_object _ _⟩
  · rw [Record.endpointValue?_eq] at hv hw
    rw [endpoint_opposite_round, endpoint_round, Record.endpointValue?_eq,
      Record.endpointValue?_eq]
    have hscalar := (Record.scalarAt?_eq_some_iff.mp hv).1
    exact and_congr (Record.scalarAt?_takeIn hscalar) (Record.scalarAt?_beside_takeIn hscalar hw)

/-- An element without a field of its own under the other key takes in the value. -/
theorem carried_lookups_plain :
    ∃ e' ∈ (⟨"KNOWS", ⟨none, "uid", "from"⟩, ⟨none, "uid", "id"⟩,
        [[("from", .string "a"), ("id", .string "x")]], [], true, true⟩ :
        RelationshipGroup).records,
      e'.endpointValue? "from" = some (.string "a") ∧ e'.endpointValue? "id" = some (.string "x") := by
  obtain ⟨-, e', he', -, hlookups⟩ := carried_lookups_iff (g := ⟨"KNOWS", ⟨none, "uid", "from"⟩,
    ⟨none, "uid", "to.id"⟩, [[("from", .string "a"), ("to", .array [.object [("id", .string "x")]])]],
    [], true, true⟩) (p := ⟨.target, "to", "id"⟩) (r := [("from", .string "a"),
    ("to", .array [.object [("id", .string "x")]])]) (e := [("id", .string "x")])
    (v := .string "a") (w := .string "x") (by decide) rfl (by decide) rfl (by decide) (by decide) (by decide)
  exact ⟨e', he', hlookups.mpr (by decide)⟩

/-- A field of the element under the whole record key hides the value that is carried into it. -/
theorem carried_value_hidden :
    ¬∀ (g g' : RelationshipGroup) (p : ListPlace) (r e : Record) (items : List Json) (v w : Json),
      g.nextList? = some p → g.expandAt p = .ok g' → g.expand = .ok g' → r ∈ g.records →
      r.heldAt p.path = .list items → .object e ∈ items →
      r.endpointValue? (g.endpoint p.side.opposite).recordKey = some v →
      e.endpointValue? p.rest = some w →
      ∃ e' ∈ g'.records,
        Record.carry (.object e) (some ((g.endpoint p.side.opposite).recordKey, v)) = .object e' ∧
        e'.endpointValue? (g'.endpoint p.side.opposite).recordKey = some v ∧
        e'.endpointValue? (g'.endpoint p.side).recordKey = some w := by
  intro h
  have hround := expandAt_eq_ok_iff (g := ⟨"KNOWS", ⟨none, "uid", "from.id"⟩,
    ⟨none, "uid", "to.id"⟩, [[("from", .object [("id", .string "a")]),
    ("to", .array [.object [("from.id", .string "z"), ("id", .string "x")]])]], [], true, true⟩)
    (p := ⟨.target, "to", "id"⟩) |>.mpr ⟨by decide, by decide, rfl⟩
  obtain ⟨e', -, hcarry, hv, -⟩ := h _ _ _ _ [("from.id", .string "z"), ("id", .string "x")] _
    (.string "a") (.string "x") (by decide) hround
    ((expand_of_expandAt (by decide) hround).trans (expand_of_nextList?_eq_none (by decide)))
    List.mem_cons_self rfl List.mem_cons_self (by decide) (by decide)
  obtain rfl := Json.object.inj hcarry
  exact absurd hv (by decide)

end RelationshipGroup
end GraphLoad
