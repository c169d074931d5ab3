import GraphLoad.Proofs.Record.Leaves
import GraphLoad.Proofs.Specification.Round

/-!
# Elements that become records

In a record without dotted keys an endpoint is found along its key (`scalarAt?_of_dotFree`). An
element that such a record is cut into takes in one field, the first on the way to the other endpoint
(`takeIn_carried`): that endpoint has the leaves that it has in the record, and what lies under other
fields is left alone.
-/

namespace GraphLoad.Record

open GraphLoad.Path

/-! ## Records without dotted keys -/

theorem scalarAt?_of_dotFree {r : Record} (h : Json.DotFree (.object r)) (key : String) :
    r.scalarAt? key = (walk (segments key) (.object r)).filter Json.isScalar := by
  rw [scalarAt?]
  cases hget : Fields.get? r key with
  | none => rfl
  | some v =>
    have hkey : segments key = [key] :=
      segments_of_dot_not_mem (h.not_mem_key (Fields.mem_keys (Fields.mem_of_get? hget)))
    rw [hkey, walk, child?, hget, Option.bind_some, walk]
    cases v <;> rfl

variable {r e : Record} {key : String} {shape : Shape}

/-- Without an array on the way the endpoint is found, and it is the one leaf. -/
theorem exists_scalarAt? (hr : Json.DotFree (.object r)) (hfits : Fits shape (.object r))
    (hshape : shape.segments = segments key) (hnone : shape.atList? = none) :
    ∃ v, v.isScalar ∧ r.scalarAt? key = some v ∧ leaves (segments key) (.object r) = [v] := by
  obtain ⟨v, hv, hwalk, hleaves⟩ := hfits.exists_leaf hnone
  rw [hshape] at hwalk hleaves
  refine ⟨v, hv, ?_, hleaves⟩
  rw [scalarAt?_of_dotFree hr, hwalk, Option.filter, if_pos hv]

/-- No scalar is found behind an array. -/
theorem scalarAt?_eq_none (hr : Json.DotFree (.object r)) (hmeets : Meets shape (.object r))
    (hshape : shape.segments = segments key) (hindex : ∀ s ∈ shape.segments, index? s = none)
    {before : List String} {after : Shape} (hsome : shape.atList? = some (before, after)) :
    r.scalarAt? key = none := by
  obtain ⟨items, hwalk, -⟩ := hmeets.exists_items hsome
  have happend := (Shape.segments_of_atList? hsome).2
  rw [scalarAt?_of_dotFree hr, ← hshape, ← happend, walk_append, hwalk, Option.bind_some]
  cases hafter : after.segments with
  | nil => rfl
  | cons s o =>
    have hs : index? s = none := by
      refine hindex s ?_
      rw [← happend, hafter]
      exact List.mem_append_right _ List.mem_cons_self
    rw [walk, child?, hs]
    rfl

/-! ## What an element takes in -/

/-- The element `e` has become `e'`: on the way along the key it is like the record `r`, and its other
fields are left as they are. -/
structure TakesIn (r e e' : Record) (key : String) (shape : Shape) : Prop where
  dotFree : Json.DotFree (.object e')
  fits : Fits shape (.object e')
  leaves_eq : leaves (segments key) (.object e') = leaves (segments key) (.object r)
  get?_eq : ∀ s, (segments key).head? ≠ some s → Fields.get? e' s = Fields.get? e s

theorem get?_takeIn_of_ne {path s : String} (hs : (segments path).head? ≠ some s) (value : Json) :
    Fields.get? (e.takeIn (some (path, value))) s = Fields.get? e s := by
  obtain ⟨t, o, hsegs⟩ := List.exists_cons_of_ne_nil (segments_ne_nil path)
  rw [takeIn_eq_insert hsegs, Fields.get?_insert, if_neg]
  rintro rfl
  apply hs
  rw [hsegs, List.head?_cons]

theorem takesIn_scalar {v : Json} (hv : v.isScalar)
    (hleaves : leaves (segments key) (.object r) = [v]) (hshape : shape.segments = segments key)
    (hnone : shape.atList? = none) (hindex : ∀ s ∈ shape.segments, index? s = none)
    (he : Json.DotFree (.object e)) : TakesIn r e (e.takeIn (some (key, v))) key shape := by
  have hput : put shape.segments v (.object e) = .object (e.takeIn (some (key, v))) := by
    rw [object_takeIn, hshape]
  have hdots : ∀ t ∈ shape.segments, '.' ∉ t.toList := fun t ht =>
    dot_not_mem_segments (hshape ▸ ht)
  have hfits : Fits shape (.object (e.takeIn (some (key, v)))) :=
    hput ▸ Fits.put hv hnone hindex (.object e)
  refine ⟨hput ▸ .put hdots (.of_isScalar hv) he, hfits, ?_, fun s hs => get?_takeIn_of_ne hs v⟩
  obtain ⟨w, -, hwalk, hleaves'⟩ := hfits.exists_leaf hnone
  rw [← hput, walk_put_self] at hwalk
  rw [← hshape, hleaves', hshape, hleaves, Option.some.inj hwalk]

theorem takesIn_field {s : String} {o : List String} {x : Json} (hsegs : segments key = s :: o)
    (hx : Fields.get? r s = some x) (hr : Json.DotFree (.object r)) (hfits : Fits shape (.object r))
    (hshape : shape.segments = segments key) (he : Json.DotFree (.object e)) :
    TakesIn r e (e.takeIn (some (s, x))) key shape := by
  have hmem : s ∈ segments key := hsegs ▸ List.mem_cons_self
  have hs := segments_of_mem_segments hmem
  have htake : e.takeIn (some (s, x)) = Fields.insert s x e := by
    rw [takeIn_eq_insert hs, put]
  have hget : Fields.get? (Fields.insert s x e) s = Fields.get? r s := by
    rw [Fields.get?_insert, if_pos rfl, hx]
  refine ⟨?_, ?_, ?_, ?_⟩
  · rw [htake]
    exact he.insert (dot_not_mem_segments hmem) (hr.get? hx)
  · rw [htake]
    rw [hsegs] at hshape
    obtain ⟨⟨t, m⟩, shape', rfl⟩ := List.exists_cons_of_ne_nil (fun h : shape = [] =>
      List.cons_ne_nil s o (by rw [← hshape, h]; rfl))
    obtain rfl := (List.cons.inj hshape).1
    exact hfits.congr hget
  · rw [htake, hsegs]
    exact leaves_congr hget
  · intro t ht
    apply get?_takeIn_of_ne
    rw [hs]
    rwa [hsegs] at ht

/-- An element takes in a scalar where the way to the other endpoint meets no array, else the field
that the array lies in. -/
theorem takeIn_carried (hr : Json.DotFree (.object r)) (hfits : Fits shape (.object r))
    (hshape : shape.segments = segments key) (hindex : ∀ s ∈ shape.segments, index? s = none)
    (he : Json.DotFree (.object e)) : TakesIn r e (e.takeIn (r.carried key)) key shape := by
  cases hlist : shape.atList? with
  | none =>
    obtain ⟨v, hv, hat, hleaves⟩ := exists_scalarAt? hr hfits hshape hlist
    rw [carried, endpointValue?_eq, hat]
    exact takesIn_scalar hv hleaves hshape hlist hindex he
  | some found =>
    obtain ⟨before, after⟩ := found
    have hat := scalarAt?_eq_none hr hfits.meets hshape hindex hlist
    obtain ⟨s, o, hsegs⟩ := List.exists_cons_of_ne_nil (segments_ne_nil key)
    obtain ⟨x, hx⟩ := hfits.exists_get? (hshape.trans hsegs)
    rw [carried, endpointValue?_eq, hat]
    dsimp only
    rw [hsegs, List.headD_cons, hx, Option.map_some]
    exact takesIn_field hsegs hx hr hfits hshape he

end GraphLoad.Record
