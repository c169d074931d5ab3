import GraphLoad.Proofs.Record.Endpoint

/-!
# Reading behind a write

What a walk finds after a value was written somewhere else, or in the same place. A scalar that a
walk led to before is still found there if the two paths lead to different places, or if they lead
to one place and the value written is the scalar itself (`walk_put_eq_some_iff`). Two segments can
differ and yet be one place in an array, so this is a question of the data as well.
-/

namespace GraphLoad.Path

/-- The element of an array that a segment denotes, with its index. -/
def slot? (segment : String) (items : List Json) : Option (Nat × Json) :=
  (index? segment).bind fun i => items[i]?.map (i, ·)

/-- How the place of a write lies to the place that a walk leads to: somewhere else, in the same
place, or across the walk, where the write goes on behind its end or stops before it. -/
inductive Meeting where
  | apart
  | same
  | across
deriving DecidableEq, Repr

def meeting : (written read : List String) → Json → Meeting
  | [], [], _ => .same
  | s :: o, t :: r, .object fields =>
    if s = t then meeting o r ((Fields.get? fields s).getD .null) else .apart
  | s :: o, t :: r, .array items =>
    match slot? s items, slot? t items with
    | some (i, item), some (k, _) => if i = k then meeting o r item else .apart
    | _, _ => .across
  | _, _, _ => .across

/-! ## Segments that are paths -/

theorem segments_of_dot_not_mem {path : String} (h : '.' ∉ path.toList) :
    segments path = [path] := by
  have hjoin := segments_join (List.cons_ne_nil path []) fun s hs => List.mem_singleton.mp hs ▸ h
  rwa [join, String.intercalate_singleton] at hjoin

theorem segments_of_mem_segments {path seg : String} (h : seg ∈ segments path) :
    segments seg = [seg] :=
  segments_of_dot_not_mem (dot_not_mem_segments h)

/-! ## Children -/

theorem child?_array (segment : String) (items : List Json) :
    child? segment (.array items) = (slot? segment items).map Prod.snd := by
  rw [child?, slot?]
  cases index? segment with
  | none => rfl
  | some i =>
    rw [Option.bind_some, Option.bind_some]
    cases items[i]? <;> rfl

theorem slot?_eq_some_iff {segment : String} {items : List Json} {i : Nat} {item : Json} :
    slot? segment items = some (i, item) ↔ index? segment = some i ∧ items[i]? = some item := by
  rw [slot?]
  cases index? segment with
  | none => simp
  | some k =>
    simp only [Option.bind_some, Option.map_eq_some_iff, Prod.mk.injEq, Option.some.injEq]
    constructor
    · rintro ⟨_, hitem, rfl, rfl⟩
      exact ⟨rfl, hitem⟩
    · rintro ⟨rfl, hitem⟩
      exact ⟨item, hitem, rfl, rfl⟩

theorem put_array_of_slot? {s : String} {items : List Json} {i : Nat} {item : Json}
    (h : slot? s items = some (i, item)) (o : List String) (v : Json) :
    put (s :: o) v (.array items) = .array (items.set i (put o v item)) := by
  rw [slot?] at h
  rw [put, h]

theorem put_array_of_no_slot {s : String} {items : List Json} (h : slot? s items = none)
    (o : List String) (v : Json) :
    put (s :: o) v (.array items) = .object [(s, put o v .null)] := by
  rw [slot?] at h
  rw [put, h]

/-- Where a write goes at its first segment: into a field of an object, into an element of an array, or
into a new object in place of a value in which the segment leads nowhere. -/
inductive Entry (s : String) : Json → Prop
  | field (fields : Fields) : Entry s (.object fields)
  | item {items : List Json} {i : Nat} {item : Json} : slot? s items = some (i, item) →
    Entry s (.array items)
  | misfit {j : Json} : child? s j = none →
    (∀ o v, put (s :: o) v j = put (s :: o) v (.object [])) → Entry s j

theorem entry (s : String) (j : Json) : Entry s j := by
  cases j with
  | object fields => exact .field fields
  | array items =>
    cases hs : slot? s items with
    | none =>
      refine .misfit (by rw [child?_array, hs, Option.map_none]) fun o v => ?_
      rw [put_array_of_no_slot hs]
      rfl
    | some found => exact .item hs
  | null | bool | number | string => exact .misfit rfl fun _ _ => rfl

/-- A write behind a segment leaves an array or an object. -/
theorem isScalar_isNull_put_cons (s : String) (o : List String) (v j : Json) :
    (put (s :: o) v j).isScalar = false ∧ (put (s :: o) v j).isNull = false := by
  cases entry s j with
  | field fields => exact ⟨rfl, rfl⟩
  | item hs =>
    rw [put_array_of_slot? hs]
    exact ⟨rfl, rfl⟩
  | misfit _ hput =>
    rw [hput]
    exact ⟨rfl, rfl⟩

theorem isNull_put {v : Json} (hv : v.isScalar) (segs : List String) (j : Json) :
    (put segs v j).isNull = false := by
  cases segs with
  | nil => exact Json.isNull_of_isScalar hv
  | cons s o => exact (isScalar_isNull_put_cons s o v j).2

theorem walk_eq_none_of_isScalar {v : Json} (hv : v.isScalar) (t : String) (r : List String) :
    walk (t :: r) v = none := by
  cases v with
  | bool | number | string => rfl
  | null | array | object => exact absurd hv Bool.false_ne_true

theorem walk_append (before after : List String) (j : Json) :
    walk (before ++ after) j = (walk before j).bind (walk after) := by
  induction before generalizing j with
  | nil => rfl
  | cons s r ih =>
    rw [List.cons_append, walk, walk]
    cases child? s j with
    | none => rfl
    | some c => exact ih c

/-! ## The walk to the written value -/

theorem getD_walk_null (segs : List String) : (walk segs .null).getD .null = .null := by
  cases segs <;> rfl

/-- A write behind leading segments is a write into what they lead to. -/
theorem walk_put_append (lead segs : List String) (v j : Json) :
    walk lead (put (lead ++ segs) v j) = some (put segs v ((walk lead j).getD .null)) := by
  induction lead generalizing j with
  | nil => rfl
  | cons s o ih =>
    have hfield : ∀ fields, walk (s :: o) (put (s :: (o ++ segs)) v (.object fields)) =
        some (put segs v ((walk (s :: o) (.object fields)).getD .null)) := by
      intro fields
      rw [put, walk, child?, Fields.get?_insert, if_pos rfl, Option.bind_some, ih, walk, child?]
      cases Fields.get? fields s with
      | none => rw [Option.getD_none, getD_walk_null, Option.bind_none, Option.getD_none]
      | some c => rw [Option.getD_some, Option.bind_some]
    rw [List.cons_append]
    cases entry s j with
    | field fields => exact hfield fields
    | item hs =>
      obtain ⟨hindex, hitem⟩ := slot?_eq_some_iff.mp hs
      obtain ⟨hlt, -⟩ := List.getElem?_eq_some_iff.mp hitem
      rw [put_array_of_slot? hs, walk, child?, hindex, Option.bind_some, List.getElem?_set_self hlt,
        Option.bind_some, ih, walk, child?_array, hs, Option.map_some, Option.bind_some]
    | misfit hnone hput =>
      rw [hput, hfield, walk, walk, hnone]
      rfl

/-- What is written at a path is found there. -/
theorem walk_put_self (segs : List String) (v j : Json) : walk segs (put segs v j) = some v := by
  have h := walk_put_append segs [] v j
  rwa [List.append_nil, put] at h

/-! ## A walk to another value -/

theorem child?_singleton {s t : String} (hst : s ≠ t) (v : Json) :
    child? t (.object [(s, v)]) = none := by
  rw [child?, Fields.get?_cons, if_neg hst.symm, Fields.get?_nil]

/-- A write below a segment of a value other than an array leaves what is below another segment. -/
theorem child?_put_of_isArray_eq_false {s t : String} {j : Json} (hst : s ≠ t)
    (hj : j.isArray = false) (o : List String) (v : Json) :
    child? t (put (s :: o) v j) = child? t j := by
  cases j with
  | object fields => rw [put, child?, child?, Fields.get?_insert, if_neg hst.symm]
  | array items => cases hj
  | null | bool | number | string => exact child?_singleton hst (put o v .null)

/-- After a write a scalar is still found if and only if the write was made elsewhere, or in the
same place with the scalar itself. -/
theorem walk_put_eq_some_iff {written read : List String} {v w j : Json} (hv : v.isScalar)
    (hw : w.isScalar) (h : walk read j = some w) :
    walk read (put written v j) = some w ↔
      meeting written read j = .apart ∨ meeting written read j = .same ∧ v = w := by
  induction written generalizing read j with
  | nil =>
    cases read with
    | nil => simp [put, walk, meeting]
    | cons t r => simp [put, walk_eq_none_of_isScalar hv, meeting]
  | cons s o ih =>
    cases read with
    | nil =>
      have hne : put (s :: o) v j ≠ w := by
        intro heq
        rw [← heq, (isScalar_isNull_put_cons s o v j).1] at hw
        exact absurd hw Bool.false_ne_true
      simp [walk, hne, meeting]
    | cons t r =>
      obtain ⟨c, hc, hr⟩ := Option.bind_eq_some_iff.mp h
      cases j with
      | null | bool | number | string => exact absurd hc (by simp [child?])
      | object fields =>
        rw [child?] at hc
        rw [put, walk, child?, Fields.get?_insert, meeting]
        by_cases hst : s = t
        · subst hst
          rw [if_pos rfl, if_pos rfl, hc, Option.bind_some, Option.getD_some]
          exact ih hr
        · rw [if_neg (Ne.symm hst), if_neg hst, hc, Option.bind_some, hr]
          simp
      | array items =>
        rw [child?_array] at hc
        obtain ⟨⟨k, item⟩, ht, rfl⟩ := Option.map_eq_some_iff.mp hc
        obtain ⟨hindex, hitem⟩ := slot?_eq_some_iff.mp ht
        cases hs : slot? s items with
        | none =>
          -- the array gives way to an object without the key of the walk
          have hst : t ≠ s := by
            rintro rfl
            simp [ht] at hs
          rw [put_array_of_no_slot hs, walk, child?_singleton hst.symm, meeting, hs]
          simp
        | some found =>
          obtain ⟨i, old⟩ := found
          rw [put_array_of_slot? hs, walk, child?, hindex, Option.bind_some, meeting, hs, ht]
          by_cases hik : i = k
          · subst hik
            obtain ⟨-, hold⟩ := slot?_eq_some_iff.mp hs
            obtain rfl := Option.some.inj (hold.symm.trans hitem)
            obtain ⟨hlt, -⟩ := List.getElem?_eq_some_iff.mp hitem
            rw [List.getElem?_set_self hlt, Option.bind_some]
            dsimp only
            rw [if_pos rfl]
            exact ih hr
          · rw [List.getElem?_set_ne hik, hitem, Option.bind_some, hr]
            simp [hik]

end GraphLoad.Path
