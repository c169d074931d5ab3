import GraphLoad.Proofs.Specification.Product
import GraphLoad.Proofs.Specification.Rounds
import GraphLoad.Proofs.Specification.Unexpanded

/-!
# Lists that no round cuts

The rounds of expansion look for lists in the first record alone. Where the first records show a list, it is
cut in all records; a list that another record has anywhere else is left to it, and the record is skipped when
the group is compiled. `no_list_left_iff` says when no list is left in any record: if, in every record,
nothing that is reached through the lists that are cut has a further list on its way to the end.
-/

namespace GraphLoad

open GraphLoad.Path

namespace Record

/-! ## What a record leads to -/

/-- The elements of the list at a path, none if there is no list. -/
def elementsAt (r : Record) (path : String) : List Json :=
  match r.heldAt path with
  | .list items => items
  | _ => []

/-- An element as a record. One that is no object has no fields. -/
def ofElement (item : Json) : Record :=
  (ofElement? item).getD []

/-- The records that a record leads to on the way to one end, through the lists at the places on that
way. -/
def reached (side : Side) : List ListPlace → Record → List Record
  | [], r => [r]
  | p :: places, r =>
    if p.side = side then (r.elementsAt p.path).flatMap fun item => reached side places (ofElement item)
    else reached side places r

variable {r e : Record} {key path s : String} {o : List String} {side : Side} {p : ListPlace}
  {places : List ListPlace}

@[simp]
theorem reached_nil : r.reached side [] = [r] := rfl

theorem reached_cons_side :
    r.reached p.side (p :: places) =
      (r.elementsAt p.path).flatMap fun item => (ofElement item).reached p.side places :=
  if_pos rfl

theorem reached_cons_opposite :
    r.reached p.side.opposite (p :: places) = r.reached p.side.opposite places := by
  refine if_neg ?_
  cases p.side <;> decide

/-- Some record that is reached has a list on the way along the key. -/
def LeadsToList (r : Record) (side : Side) (places : List ListPlace) (key : String) : Prop :=
  ∃ x ∈ r.reached side places, x.CrossesList key

/-- Both records lead somewhere or neither does, and likewise to a list. -/
structure LeadsAlike (e r : Record) (side : Side) (places : List ListPlace) (key : String) : Prop where
  reached : e.reached side places ≠ [] ↔ r.reached side places ≠ []
  leadsToList : e.LeadsToList side places key ↔ r.LeadsToList side places key

theorem LeadsAlike.of_eq (h : e.reached side places = r.reached side places) :
    LeadsAlike e r side places key := by
  constructor
  · rw [h]
  · rw [LeadsToList, LeadsToList, h]

theorem leadsToList_cons_side :
    r.LeadsToList p.side (p :: places) key ↔
      ∃ item ∈ r.elementsAt p.path, (ofElement item).LeadsToList p.side places key := by
  simp only [LeadsToList, reached_cons_side, List.mem_flatMap]
  constructor
  · rintro ⟨x, ⟨item, hitem, hx⟩, hcrosses⟩
    exact ⟨item, hitem, x, hx, hcrosses⟩
  · rintro ⟨item, hitem, x, hx, hcrosses⟩
    exact ⟨x, ⟨item, hitem, hx⟩, hcrosses⟩

theorem leadsToList_cons_opposite :
    r.LeadsToList p.side.opposite (p :: places) key ↔ r.LeadsToList p.side.opposite places key := by
  rw [LeadsToList, LeadsToList, reached_cons_opposite]

theorem reached_cons_side_ne_nil_iff :
    r.reached p.side (p :: places) ≠ [] ↔
      ∃ item ∈ r.elementsAt p.path, (ofElement item).reached p.side places ≠ [] := by
  rw [reached_cons_side, ne_eq, List.flatMap_eq_nil_iff]
  simp only [not_forall, exists_prop]

/-! ## Where the first segment leads -/

theorem crossesList_iff :
    r.CrossesList key ↔ key ≠ "" ∧ firstList (segments key) (.object r) ≠ none := by
  rw [CrossesList, firstList_ne_none_iff]

instance (r : Record) (key : String) : Decidable (r.CrossesList key) :=
  decidable_of_iff _ crossesList_iff.symm

/-- Whether a list is crossed depends on the field under the first segment. -/
theorem crossesList_congr (hsegs : segments key = s :: o)
    (hget : Fields.get? e s = Fields.get? r s) : e.CrossesList key ↔ r.CrossesList key := by
  rw [crossesList_iff, crossesList_iff, hsegs, firstList, firstList, child?, child?, hget]

theorem elementsAt_congr (hsegs : segments path = s :: o)
    (hget : Fields.get? e s = Fields.get? r s) : e.elementsAt path = r.elementsAt path := by
  have hresolve : resolveIn path e = resolveIn path r := by
    rw [resolveIn_eq, resolveIn_eq, hsegs, walk, walk, child?, child?, hget]
  rw [elementsAt, elementsAt, heldAt, heldAt, hresolve]

/-- A record without a list on the way along a key has no elements at a path in front of a dot of it. -/
theorem elementsAt_eq_nil {rest : String} (h : ¬r.CrossesList key) (hkey : key = path ++ "." ++ rest) :
    r.elementsAt path = [] := by
  rw [elementsAt]
  split
  · rename_i items hheld
    have hne : key ≠ "" := by
      rintro rfl
      have hlength := congrArg String.length hkey
      have hdot : ".".length = 1 := rfl
      simp only [String.length_append, String.length_empty] at hlength
      omega
    have hwalk : walk (segments path) (.object r) = some (.array items) := by
      rw [heldAt, resolveIn_eq, present] at hheld
      split at hheld
      · cases hheld
      · rename_i heq
        cases hheld
        exact (Option.filter_eq_some_iff.mp heq).1
      · cases hheld
    refine absurd ⟨hne, segments path, segments rest, items, segments_ne_nil path, ?_, hwalk⟩ h
    rw [hkey, segments_append_dot]
  · rfl

/-! ## What an element takes in -/

/-- Whatever the element is, a value is carried into the fields that it has. -/
theorem carry_eq (hindex : ∀ s ∈ segments path, index? s = none) (item value : Json) :
    carry item (some (path, value)) = .object ((ofElement item).takeIn (some (path, value))) := by
  obtain ⟨s, o, hsegs⟩ := List.exists_cons_of_ne_nil (segments_ne_nil path)
  have hs : index? s = none := hindex s (hsegs ▸ List.mem_cons_self)
  cases item with
  | object fields => exact carry_object fields _
  | array items =>
    rw [object_takeIn, carry, withValueAt, hsegs, put_array_of_no_slot (by rw [slot?, hs]; rfl)]
    rfl
  | null | bool | number | string =>
    rw [object_takeIn, carry, withValueAt, hsegs]
    rfl

theorem firstList_put_eq_none {v : Json} (hv : v.isScalar) {segs : List String}
    (hindex : ∀ s ∈ segs, index? s = none) (j : Json) : firstList segs (put segs v j) = none := by
  let shape : Path.Shape := segs.map (·, false)
  have hsegs : shape.segments = segs := (List.map_map).trans (List.map_id segs)
  have hnone : shape.atList? = none := by
    clear hsegs hindex
    induction segs with
    | nil => rfl
    | cons s o ih => exact Option.map_eq_none_iff.mpr ih
  have hfits := (Fits.put hv hnone (hsegs.symm ▸ hindex) j).meets.firstList_eq
  rwa [hsegs, hnone] at hfits

/-- No list is crossed on the way to a scalar that was carried. -/
theorem not_crossesList_takeIn {v : Json} (hv : v.isScalar)
    (hindex : ∀ s ∈ segments key, index? s = none) :
    ¬(e.takeIn (some (key, v))).CrossesList key := by
  rw [crossesList_iff, object_takeIn]
  exact fun h => h.2 (firstList_put_eq_none hv hindex _)

/-- A record to which nothing is carried has nothing under the first segment of the key. -/
theorem not_crossesList_of_carried_eq_none (h : r.carried key = none) : ¬r.CrossesList key := by
  obtain ⟨s, o, hsegs⟩ := List.exists_cons_of_ne_nil (segments_ne_nil key)
  rw [carried] at h
  split at h
  · cases h
  · rw [hsegs, List.headD_cons, Option.map_eq_none_iff] at h
    rw [crossesList_iff, hsegs, firstList, child?, h]
    exact fun hcrosses => hcrosses.2 rfl

/-- What is carried is written along the whole key or under its first segment. -/
theorem segments_of_carried {c : String × Json} (h : r.carried key = some c) :
    (segments c.1).head? = (segments key).head? ∧ ∀ s ∈ segments c.1, s ∈ segments key := by
  obtain ⟨s, o, hsegs⟩ := List.exists_cons_of_ne_nil (segments_ne_nil key)
  rw [carried] at h
  split at h
  · obtain rfl := Option.some.inj h
    exact ⟨rfl, fun _ => id⟩
  · obtain ⟨x, -, rfl⟩ := Option.map_eq_some_iff.mp h
    have hmem : s ∈ segments key := hsegs ▸ List.mem_cons_self
    rw [hsegs, List.headD_cons, segments_of_mem_segments hmem]
    exact ⟨rfl, fun t ht => List.mem_singleton.mp ht ▸ List.mem_cons_self⟩

variable {item : Json}

/-- An element keeps its other fields. -/
theorem get?_carry (hindex : ∀ s ∈ segments key, index? s = none)
    (h : carry item (r.carried key) = .object e) {t : String} (ht : (segments key).head? ≠ some t) :
    Fields.get? e t = Fields.get? (ofElement item) t := by
  cases hc : r.carried key with
  | none =>
    rw [hc, carry] at h
    rw [h]
    rfl
  | some c =>
    obtain ⟨hhead, hmem⟩ := segments_of_carried hc
    rw [hc, carry_eq fun s hs => hindex s (hmem s hs)] at h
    obtain rfl := Json.object.inj h
    exact get?_takeIn_of_ne (hhead ▸ ht) c.2

/-- On the way along the key of the other end an element has no list, as its record, or it has the field
that its record has. -/
theorem carry_crossesList (hindex : ∀ s ∈ segments key, index? s = none)
    (hunresolved : r.CrossesList key → r.endpointValue? key = none)
    (hbare : r.carried key = none → ¬(ofElement item).CrossesList key)
    (h : carry item (r.carried key) = .object e) :
    ¬e.CrossesList key ∧ ¬r.CrossesList key ∨
      ∃ s o, segments key = s :: o ∧ Fields.get? e s = Fields.get? r s := by
  cases hc : r.carried key with
  | none =>
    rw [hc, carry] at h
    subst h
    exact .inl ⟨hbare hc, not_crossesList_of_carried_eq_none hc⟩
  | some c =>
    rw [hc, carry_eq fun s hs => hindex s ((segments_of_carried hc).2 s hs)] at h
    obtain rfl := Json.object.inj h
    rw [carried] at hc
    split at hc
    · rename_i v hv
      obtain rfl := Option.some.inj hc
      have hscalar := (scalarAt?_eq_some_iff.mp ((endpointValue?_eq r key).symm.trans hv)).1
      refine .inl ⟨not_crossesList_takeIn hscalar hindex, fun hcrosses => ?_⟩
      rw [hunresolved hcrosses] at hv
      cases hv
    · obtain ⟨s, o, hsegs⟩ := List.exists_cons_of_ne_nil (segments_ne_nil key)
      obtain ⟨x, hx, rfl⟩ := Option.map_eq_some_iff.mp hc
      rw [hsegs, List.headD_cons] at hx ⊢
      have hs : segments s = [s] := segments_of_mem_segments (hsegs ▸ List.mem_cons_self)
      refine .inr ⟨s, o, rfl, ?_⟩
      rw [takeIn_eq_insert hs, Fields.get?_insert, if_pos rfl, hx]
      rfl

end Record

/-! ## Groups -/

namespace RelationshipGroup

variable {g g' : RelationshipGroup} {p : ListPlace} {r e : Record} {side : Side}

/-- The lists that the rounds of expansion cut, as the first records show them. -/
def places (g : RelationshipGroup) : List ListPlace :=
  match _h : g.nextList? with
  | none => []
  | some p =>
    match _he : g.expandAt p with
    | .error _ => []
    | .ok g' => p :: places g'
termination_by g.keyLength
decreasing_by exact g.keyLength_expandAt _h _he

/-- A round moves no list onto the way to an end and takes none off it. No segment of the key of the other
end is an index, and the shortened key begins with another segment; where the way to the other end crosses a
list, no endpoint is found under that key; and where nothing is carried, no element has a list of its own on
that way. -/
structure KeepsLists (g : RelationshipGroup) (p : ListPlace) : Prop where
  noIndex : ∀ s ∈ segments (g.endpoint p.side.opposite).recordKey, index? s = none
  apart : (segments p.rest).head? ≠ (segments (g.endpoint p.side.opposite).recordKey).head?
  unresolved : ∀ r ∈ g.records, r.CrossesList (g.endpoint p.side.opposite).recordKey →
    r.endpointValue? (g.endpoint p.side.opposite).recordKey = none
  bare : ∀ r ∈ g.records, r.carried (g.endpoint p.side.opposite).recordKey = none →
    ∀ item ∈ r.elementsAt p.path,
      ¬(Record.ofElement item).CrossesList (g.endpoint p.side.opposite).recordKey

theorem places_of_nextList?_eq_none (h : g.nextList? = none) : g.places = [] := by
  rw [places]
  split
  · rfl
  · rename_i hp
    rw [h] at hp
    cases hp

theorem places_of_expandAt (h : g.nextList? = some p) (he : g.expandAt p = .ok g') :
    g.places = p :: g'.places := by
  rw [places]
  split
  · rename_i hp
    rw [h] at hp
    cases hp
  · rename_i q hq
    obtain rfl := Option.some.inj (h.symm.trans hq)
    split
    · rename_i heq
      rw [he] at heq
      cases heq
    · rename_i heq
      rw [he] at heq
      cases heq
      rfl

/-! ## What the rounds lead a record to -/

theorem eq_or_eq_opposite (a b : Side) : a = b ∨ a = b.opposite := by
  cases a <;> cases b <;> decide

/-- The list of a round lies at the first segments of the record key. -/
theorem segments_path_of_nextList? (hp : g.nextList? = some p) (hrest : p.rest ≠ "") {s : String}
    {o : List String} (hkey : segments (g.endpoint p.side).recordKey = s :: o) :
    ∃ o', segments p.path = s :: o' := by
  obtain ⟨t, o', hpath⟩ := List.exists_cons_of_ne_nil (segments_ne_nil p.path)
  rw [recordKey_of_nextList? hp hrest, segments_append_dot, hpath] at hkey
  exact ⟨o', (List.cons.inj hkey).1 ▸ hpath⟩

/-- What is reached on the way to an end depends on the field under the first segment of its key. -/
theorem leadsAlike_of_get?_eq (h : g.expand = .ok g') {s : String} {o : List String}
    (hkey : segments (g.endpoint side).recordKey = s :: o)
    (hget : Fields.get? e s = Fields.get? r s) :
    Record.LeadsAlike e r side g.places (g'.endpoint side).recordKey := by
  induction h using expand_induction with
  | done hnone =>
    rw [places_of_nextList?_eq_none hnone]
    constructor
    · simp
    · simpa [Record.LeadsToList] using Record.crossesList_congr hkey hget
  | @round g p hp hrest hlists _ ih =>
    rw [places_of_expandAt hp (expandAt_eq_ok_iff.mpr ⟨hrest, hlists, rfl⟩)]
    obtain rfl | rfl := eq_or_eq_opposite side p.side
    · obtain ⟨o', hpath⟩ := segments_path_of_nextList? hp hrest hkey
      refine .of_eq ?_
      rw [Record.reached_cons_side, Record.reached_cons_side, Record.elementsAt_congr hpath hget]
    · obtain ⟨hreached, hleads⟩ := ih (by rwa [endpoint_opposite_round])
      constructor
      · rwa [Record.reached_cons_opposite, Record.reached_cons_opposite]
      · rwa [Record.leadsToList_cons_opposite, Record.leadsToList_cons_opposite]

/-- A record without a list on the way to an end is where that way ends, unless a list is cut there. -/
theorem reached_of_not_crossesList (h : g.expand = .ok g')
    (hr : ¬r.CrossesList (g.endpoint side).recordKey) :
    r.reached side g.places = (if ∀ p ∈ g.places, p.side ≠ side then [r] else []) ∧
      ¬r.LeadsToList side g.places (g'.endpoint side).recordKey := by
  induction h using expand_induction with
  | done hnone =>
    rw [places_of_nextList?_eq_none hnone]
    simp [Record.LeadsToList, hr]
  | @round g p hp hrest hlists _ ih =>
    rw [places_of_expandAt hp (expandAt_eq_ok_iff.mpr ⟨hrest, hlists, rfl⟩)]
    obtain rfl | rfl := eq_or_eq_opposite side p.side
    · have hnil := Record.elementsAt_eq_nil hr (recordKey_of_nextList? hp hrest)
      rw [Record.reached_cons_side, Record.leadsToList_cons_side, hnil]
      simp
    · have hside : p.side ≠ p.side.opposite := by cases p.side <;> decide
      obtain ⟨hreached, hleads⟩ := ih (by rwa [endpoint_opposite_round])
      rw [Record.reached_cons_opposite, Record.leadsToList_cons_opposite, hreached]
      simp [hside, hleads]

theorem leadsAlike_of_not_crossesList (h : g.expand = .ok g')
    (he : ¬e.CrossesList (g.endpoint side).recordKey)
    (hr : ¬r.CrossesList (g.endpoint side).recordKey) :
    Record.LeadsAlike e r side g.places (g'.endpoint side).recordKey := by
  obtain ⟨hreached, hleads⟩ := reached_of_not_crossesList h he
  obtain ⟨hreached', hleads'⟩ := reached_of_not_crossesList h hr
  refine ⟨?_, iff_of_false hleads hleads'⟩
  rw [hreached, hreached']
  split <;> simp

theorem not_leadsToList_nil (h : g.expand = .ok g') :
    ¬Record.LeadsToList [] side g.places (g'.endpoint side).recordKey := by
  refine (reached_of_not_crossesList h ?_).2
  obtain ⟨s, o, hsegs⟩ := List.exists_cons_of_ne_nil (segments_ne_nil (g.endpoint side).recordKey)
  rw [Record.crossesList_iff, hsegs]
  exact fun hcrosses => hcrosses.2 rfl

/-! ## One round -/

/-- The records of a round are the objects among the elements of the lists that are cut, each with what is
carried into it. -/
theorem mem_records_round_iff :
    e ∈ (g.round p).records ↔ ∃ r ∈ g.records, ∃ item ∈ r.elementsAt p.path,
      Record.carry item (r.carried (g.endpoint p.side.opposite).recordKey) = .object e := by
  rw [mem_records_round]
  refine exists_congr fun r => and_congr_right fun _ => ?_
  rw [cut, Record.elementsAt]
  cases r.heldAt p.path with
  | nothing | other => simp
  | list items => exact List.mem_map

/-- A record of a round leads to what its element leads to on the way to one end, and to what the record
that was cut leads to on the way to the other. -/
theorem KeepsLists.leadsAlike (hkeeps : g.KeepsLists p) (h : (g.round p).expand = .ok g')
    (hr : r ∈ g.records) {item : Json} (hitem : item ∈ r.elementsAt p.path)
    (he : Record.carry item (r.carried (g.endpoint p.side.opposite).recordKey) = .object e) :
    Record.LeadsAlike e (Record.ofElement item) p.side (g.round p).places
        (g'.endpoint p.side).recordKey ∧
      Record.LeadsAlike e r p.side.opposite (g.round p).places
        (g'.endpoint p.side.opposite).recordKey := by
  obtain ⟨hindex, hapart, hunresolved, hbare⟩ := hkeeps
  constructor
  · obtain ⟨t, o, hrest⟩ := List.exists_cons_of_ne_nil (segments_ne_nil p.rest)
    refine leadsAlike_of_get?_eq h (by rwa [endpoint_round]) (Record.get?_carry hindex he ?_)
    rw [hrest, List.head?_cons] at hapart
    exact hapart.symm
  · rcases Record.carry_crossesList hindex (hunresolved r hr) (fun hc => hbare r hr hc item hitem) he with
      ⟨hcrosses, hcrosses'⟩ | ⟨s, o, hsegs, hget⟩
    · exact leadsAlike_of_not_crossesList h (by rwa [endpoint_opposite_round])
        (by rwa [endpoint_opposite_round])
    · exact leadsAlike_of_get?_eq h (by rwa [endpoint_opposite_round]) hget

/-- An element that leads to a list, or whose record leads to one at the other end, becomes a record. -/
theorem KeepsLists.exists_carry (hkeeps : g.KeepsLists p) (h : (g.round p).expand = .ok g') (item : Json)
    (hleads : (Record.ofElement item).LeadsToList p.side (g.round p).places (g'.endpoint p.side).recordKey ∨
      r.LeadsToList p.side.opposite (g.round p).places (g'.endpoint p.side.opposite).recordKey) :
    ∃ e, Record.carry item (r.carried (g.endpoint p.side.opposite).recordKey) = .object e := by
  cases hc : r.carried (g.endpoint p.side.opposite).recordKey with
  | some c =>
    exact ⟨_, Record.carry_eq (fun s hs => hkeeps.noIndex s ((Record.segments_of_carried hc).2 s hs)) _ _⟩
  | none =>
    rcases hleads with hleads | hleads
    · cases item with
      | object fields => exact ⟨fields, rfl⟩
      | null | bool | number | string | array => exact absurd hleads (not_leadsToList_nil h)
    · have hcrosses := Record.not_crossesList_of_carried_eq_none hc
      rw [← endpoint_opposite_round] at hcrosses
      exact absurd hleads (reached_of_not_crossesList h hcrosses).2

/-- A record is left with a list at the end of the rounds. -/
def LeavesList (g g' : RelationshipGroup) (r : Record) : Prop :=
  ∃ side, r.reached side.opposite g.places ≠ [] ∧
    r.LeadsToList side g.places (g'.endpoint side).recordKey

theorem leavesList_iff (side : Side) :
    g.LeavesList g' r ↔
      r.reached side.opposite g.places ≠ [] ∧ r.LeadsToList side g.places (g'.endpoint side).recordKey ∨
      r.reached side g.places ≠ [] ∧
        r.LeadsToList side.opposite g.places (g'.endpoint side.opposite).recordKey := by
  have hopposite : side.opposite.opposite = side := by cases side <;> rfl
  constructor
  · rintro ⟨side', hreached, hleads⟩
    obtain rfl | rfl := eq_or_eq_opposite side' side
    · exact .inl ⟨hreached, hleads⟩
    · rw [hopposite] at hreached
      exact .inr ⟨hreached, hleads⟩
  · rintro (hleft | ⟨hreached, hleads⟩)
    · exact ⟨side, hleft⟩
    · exact ⟨side.opposite, by rwa [hopposite], hleads⟩

/-- A round leaves a list to one of its records exactly if one of the records that it takes is left with
one. -/
theorem exists_leavesList_round_iff (hkeeps : g.KeepsLists p) (hp : g.nextList? = some p)
    (he : g.expandAt p = .ok (g.round p)) (h : (g.round p).expand = .ok g') :
    (∃ e ∈ (g.round p).records, (g.round p).LeavesList g' e) ↔ ∃ r ∈ g.records, g.LeavesList g' r := by
  simp only [leavesList_iff p.side, places_of_expandAt hp he, Record.reached_cons_opposite,
    Record.leadsToList_cons_opposite, Record.leadsToList_cons_side, Record.reached_cons_side_ne_nil_iff,
    mem_records_round_iff]
  constructor
  · rintro ⟨e, ⟨r, hr, item, hitem, hcarry⟩, hleft⟩
    obtain ⟨hown, hother⟩ := hkeeps.leadsAlike h hr hitem hcarry
    refine ⟨r, hr, hleft.imp ?_ ?_⟩
    · exact fun ⟨hreached, hleads⟩ => ⟨hother.reached.mp hreached, item, hitem, hown.leadsToList.mp hleads⟩
    · exact fun ⟨hreached, hleads⟩ =>
        ⟨⟨item, hitem, hown.reached.mp hreached⟩, hother.leadsToList.mp hleads⟩
  · rintro ⟨r, hr, ⟨hreached, item, hitem, hleads⟩ | ⟨⟨item, hitem, hreached⟩, hleads⟩⟩
    · obtain ⟨e, hcarry⟩ := hkeeps.exists_carry (r := r) h item (.inl hleads)
      obtain ⟨hown, hother⟩ := hkeeps.leadsAlike h hr hitem hcarry
      exact ⟨e, ⟨r, hr, item, hitem, hcarry⟩,
        .inl ⟨hother.reached.mpr hreached, hown.leadsToList.mpr hleads⟩⟩
    · obtain ⟨e, hcarry⟩ := hkeeps.exists_carry h item (.inr hleads)
      obtain ⟨hown, hother⟩ := hkeeps.leadsAlike h hr hitem hcarry
      exact ⟨e, ⟨r, hr, item, hitem, hcarry⟩,
        .inr ⟨hown.reached.mpr hreached, hother.leadsToList.mpr hleads⟩⟩

/-! ## All rounds -/

theorem exists_crossesList_iff (h : g.expand = .ok g') (hkeeps : g.EveryRound KeepsLists) :
    (∃ e ∈ g'.records, ∃ side, e.CrossesList (g'.endpoint side).recordKey) ↔
      ∃ r ∈ g.records, g.LeavesList g' r := by
  induction h using expand_induction with
  | done hnone => simp [LeavesList, Record.LeadsToList, places_of_nextList?_eq_none hnone]
  | @round g p hp hrest hlists h ih =>
    have he := expandAt_eq_ok_iff.mpr ⟨hrest, hlists, rfl⟩
    obtain ⟨hnow, hlater⟩ := (everyRound_iff hp).mp hkeeps
    rw [ih (hlater _ he)]
    exact exists_leavesList_round_iff hnow hp he h

/-- No list is left on the way to an end in the first record. If no round moves a list, none is left in any
record exactly if in each of the records that are expanded, unless it leads nowhere on the way to the other end,
nothing that is reached through the lists that are cut has a further list on its way. -/
theorem no_list_left_iff (h : g.expand = .ok g') (hkeeps : g.EveryRound KeepsLists) :
    (∀ first, g'.records.head? = some first →
      ∀ side, ¬first.CrossesList (g'.endpoint side).recordKey) ∧
    ((∀ r ∈ g'.records, ∀ side, ¬r.CrossesList (g'.endpoint side).recordKey) ↔
      ∀ r ∈ g.records, ∀ side, r.reached side.opposite g.places ≠ [] →
        ∀ x ∈ r.reached side g.places, ¬x.CrossesList (g'.endpoint side).recordKey) := by
  constructor
  · simpa only [listOn?_eq_none_iff] using nextList?_eq_none_iff.mp (nextList?_eq_none_of_expand h)
  · have hiff := not_congr (exists_crossesList_iff h hkeeps)
    simpa only [LeavesList, Record.LeadsToList, not_exists, not_and] using hiff

/-- Who knows whom, with the paths of both ends. -/
def acquaintances (source target : String) (records : List Record) : RelationshipGroup :=
  ⟨"KNOWS", ⟨none, "uid", source⟩, ⟨none, "uid", target⟩, records, [], true, true⟩

/-- Beside a field with a dot in its name, the list of the first record holds a value that is no object; the
second record has no list, and the third one no source. -/
def uneven : RelationshipGroup :=
  acquaintances "from" "to.id"
    [[("from", .string "a"), ("since.year", .string "1999"),
        ("to", .array [.object [("id", .string "x")], .string "y"])],
      [("from", .string "b")],
      [("to", .array [.object [("id", .string "z")]])]]

/-- Records without a list or without a source keep none. -/
theorem no_list_left_uneven :
    ∃ g', uneven.expand = .ok g' ∧ uneven.EveryRound KeepsLists ∧
      ∀ r ∈ g'.records, ∀ side, ¬r.CrossesList (g'.endpoint side).recordKey := by
  have hnext : uneven.nextList? = some ⟨.target, "to", "id"⟩ := by decide
  have hround : uneven.expandAt ⟨.target, "to", "id"⟩ = .ok (uneven.round ⟨.target, "to", "id"⟩) :=
    expandAt_eq_ok_iff.mpr ⟨by decide, by decide, rfl⟩
  have hlast : (uneven.round ⟨.target, "to", "id"⟩).nextList? = none := by decide
  have hexpand := (expand_of_expandAt hnext hround).trans (expand_of_nextList?_eq_none hlast)
  have hplaces : uneven.places = [⟨.target, "to", "id"⟩] := by
    rw [places_of_expandAt hnext hround, places_of_nextList?_eq_none hlast]
  have hkeeps : uneven.EveryRound KeepsLists := by
    refine (everyRound_iff hnext).mpr ⟨⟨by decide, by decide, by decide, by decide⟩, fun g' hg' => ?_⟩
    obtain rfl := Except.ok.inj (hround.symm.trans hg')
    exact everyRound_of_nextList?_eq_none hlast
  refine ⟨_, hexpand, hkeeps, (no_list_left_iff hexpand hkeeps).2.mpr ?_⟩
  rw [hplaces]
  intro r hr side
  revert r
  cases side <;> decide

/-- The list of the second record is not where the first one has any. -/
def late : RelationshipGroup :=
  acquaintances "from" "to.id" [[("from", .string "a")],
    [("from", .string "b"), ("to", .array [.object [("id", .string "y")]])]]

/-- Groups that keep a list, each for another reason. -/
def keepingLists : List RelationshipGroup := [
  late,
  -- the source is written into an array at an index
  acquaintances "from.0" "to.id" [[("from", .object [("0", .string "a")]),
    ("to", .array [.object [("id", .string "x")],
      .object [("from", .array [.null]), ("id", .string "y")]])]],
  -- the source of the first record stands under a dotted key, and its list is written over
  acquaintances "from.id" "to.id" [
    [("from", .array [.object [("id", .string "b")]]), ("from.id", .string "a"),
      ("to", .array [.object [("id", .string "x")]])],
    [("from", .array [.object [("id", .string "c")]]),
      ("to", .array [.object [("id", .string "y")]])]],
  -- what is carried for the source lies on the way to the target
  acquaintances "a.b" "l.a.c" [
    [("l", .array [.object [("a", .object [("c", .string "x")])]])],
    [("a", .object [("c", .array [])]),
      ("l", .array [.object [("a", .object [("c", .string "y")])]])]],
  -- the second record has no source, but its element has a list in that place
  acquaintances "from" "to.id" [
    [("from", .string "a"), ("to", .array [.object [("id", .string "x")]])],
    [("to", .array [.object [("from", .array []), ("id", .string "y")]])]]]

/-- Whether a group is expanded and keeps a list on the way to an end. -/
def keepsList (g : RelationshipGroup) : Bool :=
  match g.expand with
  | .ok g' => g'.records.any fun r =>
      r.CrossesList g'.source.recordKey || r.CrossesList g'.target.recordKey
  | .error _ => false

theorem exists_list_of_keepsList (h : g.keepsList) :
    ∃ g', g.expand = .ok g' ∧ ∃ r ∈ g'.records, ∃ side, r.CrossesList (g'.endpoint side).recordKey := by
  rw [keepsList] at h
  split at h
  · rename_i g' hg'
    obtain ⟨r, hr, hlist⟩ := List.any_eq_true.mp h
    rcases Bool.or_eq_true_iff.mp hlist with hlist | hlist
    · exact ⟨g', hg', r, hr, .source, of_decide_eq_true hlist⟩
    · exact ⟨g', hg', r, hr, .target, of_decide_eq_true hlist⟩
  · cases h

/-- A record can be left with a list because of where it stands: then nothing of the group can be used, while
the same records in another order give a relationship. Nor is a list left for this reason only. -/
theorem expand_keeps_lists :
    (¬∀ g g' : RelationshipGroup, g.expand = .ok g' →
      ∀ r ∈ g'.records, ∀ side, ¬r.CrossesList (g'.endpoint side).recordKey) ∧
    (late.expand = .ok late ∧ ∀ r ∈ late.records, late.usable r = false) ∧
    (∃ g', { late with records := late.records.reverse }.expand = .ok g' ∧
      g'.records.map (fun r => (g'.row r).ends) = [[.string "b", .string "y"]]) ∧
    keepingLists.Forall fun g => ∃ g', g.expand = .ok g' ∧
      ∃ r ∈ g'.records, ∃ side, r.CrossesList (g'.endpoint side).recordKey := by
  have hkeeps : ∀ g ∈ keepingLists, g.keepsList := by decide +kernel
  have hlate : late.expand = .ok late := expand_of_nextList?_eq_none (by decide)
  have hnext : { late with records := late.records.reverse }.nextList? =
      some ⟨.target, "to", "id"⟩ := by decide
  have hround := expandAt_eq_ok_iff (g := { late with records := late.records.reverse })
    (p := ⟨.target, "to", "id"⟩) |>.mpr ⟨by decide, by decide, rfl⟩
  refine ⟨fun h => ?_, ⟨hlate, by decide⟩, ⟨_, (expand_of_expandAt hnext hround).trans
    (expand_of_nextList?_eq_none (by decide)), by decide⟩, ?_⟩
  · exact h late late hlate [("from", .string "b"), ("to", .array [.object [("id", .string "y")]])]
      (by decide) .target (by decide)
  · rw [List.forall_iff_forall_mem]
    exact fun g hg => exists_list_of_keepsList (hkeeps g hg)

end RelationshipGroup
end GraphLoad
