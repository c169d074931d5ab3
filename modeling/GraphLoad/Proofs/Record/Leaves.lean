import GraphLoad.Proofs.Json.Everywhere

/-!
# Walks that branch

A walk that goes on from every element of each array it lands on leads to many values, the leaves of
a path (`Path.leaves`). A shape says behind which segments of a path the arrays lie (`Path.Meets`), so
the first array is where the shape has it (`Meets.firstList_eq`). If the value ends in scalars
(`Path.Fits`), its leaves are those of the elements (`Fits.exists_elements`), and without an array
there is one leaf, to which the plain walk leads as well (`Fits.exists_leaf`).
-/

namespace GraphLoad

namespace Json

mutual

/-- The values that a walk goes on from: those in an array, whatever arrays they lie in. -/
def spread : Json → List Json
  | .array items => spreadItems items
  | .null => [.null]
  | .bool b => [.bool b]
  | .number n => [.number n]
  | .string s => [.string s]
  | .object fields => [.object fields]

def spreadItems : List Json → List Json
  | [] => []
  | v :: r => spread v ++ spreadItems r

end

@[simp]
theorem spread_array (items : List Json) : (array items).spread = items.flatMap spread := by
  rw [spread]
  induction items with
  | nil => rfl
  | cons v r ih => rw [spreadItems, ih, List.flatMap_cons]

/-- No key of an object, at any depth, holds a dot. -/
inductive DotFree : Json → Prop
  | null : DotFree .null
  | bool (b : Bool) : DotFree (.bool b)
  | number (n : Number) : DotFree (.number n)
  | string (s : String) : DotFree (.string s)
  | array {items : List Json} : (∀ v ∈ items, DotFree v) → DotFree (.array items)
  | object {fields : Fields} : (∀ k v, (k, v) ∈ fields → '.' ∉ k.toList) →
    (∀ k v, (k, v) ∈ fields → DotFree v) → DotFree (.object fields)

end Json

namespace Path

/-- The scalars at the end of a walk that takes fields of objects and goes on from every element of
an array. -/
def leaves : (segments : List String) → Json → List Json
  | [], j => j.spread.filter Json.isScalar
  | s :: r, j => j.spread.flatMap fun
    | .object fields => ((Fields.get? fields s).map (leaves r)).getD []
    | _ => []

/-- The segments of a path, each with whether there is an array behind it. -/
abbrev Shape := List (String × Bool)

/-- The segments of a shape. -/
def Shape.segments (shape : Shape) : List String :=
  shape.map Prod.fst

/-- The value has its arrays behind the segments that the shape says, with objects in them, has
objects before all other segments, and ends in scalars. -/
inductive Fits : Shape → Json → Prop
  | leaf {v : Json} : v.isScalar → Fits [] v
  | field {s : String} {r : Shape} {fields : Fields} {v : Json} : Fields.get? fields s = some v →
    Fits r v → Fits ((s, false) :: r) (.object fields)
  | list {s : String} {r : Shape} {fields : Fields} {elements : List Record} :
    Fields.get? fields s = some (.array (elements.map .object)) →
    (∀ e ∈ elements, Fits r (.object e)) → Fits ((s, true) :: r) (.object fields)

/-- The segments up to the first array, and the shape behind it. -/
def Shape.atList? : Shape → Option (List String × Shape)
  | [] => none
  | (s, true) :: r => some ([s], r)
  | (s, false) :: r => (Shape.atList? r).map fun (before, after) => (s :: before, after)

/-- The walk along the segments lands on an array behind those that the shape says, and on no other;
behind the last of them it may end early. -/
def Meets : Shape → Json → Prop
  | [], _ => True
  | (s, false) :: r, j =>
    match child? s j with
    | none => Shape.atList? r = none
    | some v => v.isArray = false ∧ Meets r v
  | (s, true) :: r, j => ∃ items, child? s j = some (.array items) ∧ ∀ item ∈ items, Meets r item

/-- Behind every array the path goes on, with more than an empty segment. -/
def Shape.Proceeds : Shape → Prop
  | [] => True
  | (_, false) :: r => Shape.Proceeds r
  | (_, true) :: r => join (Shape.segments r) ≠ "" ∧ Shape.Proceeds r

/-! ## Leaves -/

theorem leaves_array (segs : List String) (items : List Json) :
    leaves segs (.array items) = items.flatMap (leaves segs) := by
  cases segs with
  | nil =>
    rw [leaves, Json.spread_array, List.filter_flatMap]
    rfl
  | cons s r =>
    rw [leaves, Json.spread_array, List.flatMap_assoc]
    rfl

theorem leaves_object (s : String) (r : List String) (fields : Fields) :
    leaves (s :: r) (.object fields) = ((Fields.get? fields s).map (leaves r)).getD [] := by
  rw [leaves, Json.spread, List.flatMap_singleton]

theorem leaves_scalar {v : Json} (hv : v.isScalar) : leaves [] v = [v] := by
  cases v with
  | bool | number | string => rfl
  | null | array | object => exact absurd hv Bool.false_ne_true

/-! ## Shapes -/

variable {shape after : Shape} {before : List String} {j : Json}

theorem Shape.segments_of_atList? (h : shape.atList? = some (before, after)) :
    before ≠ [] ∧ before ++ after.segments = shape.segments := by
  induction shape generalizing before with
  | nil => cases h
  | cons m r ih =>
    obtain ⟨s, _ | _⟩ := m
    · obtain ⟨⟨b, a⟩, hb, he⟩ := Option.map_eq_some_iff.mp h
      obtain ⟨rfl, rfl⟩ := Prod.mk.inj he
      exact ⟨List.cons_ne_nil _ _, congrArg (s :: ·) (ih hb).2⟩
    · obtain ⟨rfl, rfl⟩ := Prod.mk.inj (Option.some.inj h)
      exact ⟨List.cons_ne_nil _ _, rfl⟩

/-- The two parts of a record key, up to the first array and behind it, have the segments that the shape
says. -/
theorem Shape.segments_join (h : shape.atList? = some (before, after)) {key : String}
    (hkey : shape.segments = Path.segments key) :
    Path.segments (join before) = before ∧
      (after.segments ≠ [] → Path.segments (join after.segments) = after.segments) := by
  obtain ⟨hne, happend⟩ := Shape.segments_of_atList? h
  have hdot : ∀ s ∈ before ++ after.segments, '.' ∉ s.toList := by
    intro s hs
    rw [happend, hkey] at hs
    exact dot_not_mem_segments hs
  exact ⟨Path.segments_join hne fun s hs => hdot s (List.mem_append_left _ hs), fun hafter =>
    Path.segments_join hafter fun s hs => hdot s (List.mem_append_right _ hs)⟩

theorem Shape.Proceeds.of_atList? (hp : shape.Proceeds) (h : shape.atList? = some (before, after)) :
    join after.segments ≠ "" ∧ after.Proceeds := by
  induction shape generalizing before with
  | nil => cases h
  | cons m r ih =>
    obtain ⟨s, _ | _⟩ := m
    · obtain ⟨⟨b, a⟩, hb, he⟩ := Option.map_eq_some_iff.mp h
      obtain ⟨rfl, rfl⟩ := Prod.mk.inj he
      exact ih hp hb
    · obtain ⟨rfl, rfl⟩ := Prod.mk.inj (Option.some.inj h)
      exact hp

theorem Shape.Proceeds.segments_ne_nil (hp : shape.Proceeds)
    (h : shape.atList? = some (before, after)) : after.segments ≠ [] := by
  intro hnil
  apply (hp.of_atList? h).1
  rw [hnil]
  rfl

/-! ## Arrays -/

theorem Meets.firstList_eq (h : Meets shape j) :
    firstList shape.segments j = shape.atList?.map fun (b, a) => (b, a.segments) := by
  induction shape generalizing j with
  | nil => rfl
  | cons x r ih =>
    obtain ⟨s, _ | _⟩ := x
    · rw [Meets] at h
      rw [Shape.segments, List.map_cons, firstList, Shape.atList?]
      split at h
      · rename_i hchild
        rw [hchild, h]
        rfl
      · rename_i v hchild
        rw [hchild]
        dsimp only
        rw [h.1, if_neg Bool.false_ne_true, ← Shape.segments, ih h.2, Option.map_map, Option.map_map]
        rfl
    · obtain ⟨items, hchild, -⟩ := h
      rw [Shape.segments, List.map_cons, firstList, hchild]
      rfl

/-- At the first array the elements meet the arrays that are left. -/
theorem Meets.exists_items (h : Meets shape j) (hsome : shape.atList? = some (before, after)) :
    ∃ items, walk before j = some (.array items) ∧ ∀ item ∈ items, Meets after item := by
  induction shape generalizing j before with
  | nil => cases hsome
  | cons x r ih =>
    obtain ⟨s, _ | _⟩ := x
    · obtain ⟨⟨b, a⟩, hb, he⟩ := Option.map_eq_some_iff.mp hsome
      obtain ⟨rfl, rfl⟩ := Prod.mk.inj he
      rw [Meets] at h
      split at h
      · rw [h] at hb
        cases hb
      · rename_i v hchild
        obtain ⟨items, hwalk, hitems⟩ := ih h.2 hb
        refine ⟨items, ?_, hitems⟩
        rw [walk, hchild]
        exact hwalk
    · obtain ⟨rfl, rfl⟩ := Prod.mk.inj (Option.some.inj hsome)
      obtain ⟨items, hchild, hitems⟩ := h
      refine ⟨items, ?_, hitems⟩
      rw [walk, hchild]
      rfl

theorem Fits.isArray_eq_false (h : Fits shape j) : j.isArray = false := by
  cases h with
  | leaf hv =>
    cases j with
    | array => exact absurd hv Bool.false_ne_true
    | null | bool | number | string | object => rfl
  | field | list => rfl

theorem Fits.meets (h : Fits shape j) : Meets shape j := by
  induction h with
  | leaf => trivial
  | field hget hr ih =>
    rw [Meets, child?, hget]
    exact ⟨hr.isArray_eq_false, ih⟩
  | list hget _ ih =>
    refine ⟨_, hget, fun item hitem => ?_⟩
    obtain ⟨e, he, rfl⟩ := List.mem_map.mp hitem
    exact ih e he

/-! ## The leaves of a shape -/

/-- Without an array there is one leaf, which the walk leads to. -/
theorem Fits.exists_leaf (h : Fits shape j) (hnone : shape.atList? = none) :
    ∃ v, v.isScalar ∧ walk shape.segments j = some v ∧ leaves shape.segments j = [v] := by
  induction h with
  | leaf hv => exact ⟨_, hv, rfl, leaves_scalar hv⟩
  | field hget _ ih =>
    obtain ⟨v, hv, hwalk, hleaves⟩ := ih (Option.map_eq_none_iff.mp hnone)
    refine ⟨v, hv, ?_, ?_⟩
    · rw [Shape.segments, List.map_cons, walk, child?, hget]
      exact hwalk
    · rw [Shape.segments, List.map_cons, leaves_object, hget]
      exact hleaves
  | list => cases hnone

/-- At the first array the leaves are those of its elements. -/
theorem Fits.exists_elements (h : Fits shape j) (hsome : shape.atList? = some (before, after)) :
    ∃ elements : List Record, walk before j = some (.array (elements.map .object)) ∧
      (∀ e ∈ elements, Fits after (.object e)) ∧
      leaves shape.segments j = elements.flatMap fun e => leaves after.segments (.object e) := by
  induction h generalizing before with
  | leaf => cases hsome
  | field hget _ ih =>
    obtain ⟨⟨b, a⟩, hb, he⟩ := Option.map_eq_some_iff.mp hsome
    obtain ⟨rfl, rfl⟩ := Prod.mk.inj he
    obtain ⟨elements, hwalk, hfits, hleaves⟩ := ih hb
    refine ⟨elements, ?_, hfits, ?_⟩
    · rw [walk, child?, hget]
      exact hwalk
    · rw [Shape.segments, List.map_cons, leaves_object, hget]
      exact hleaves
  | @list s r fields elements hget hfits =>
    obtain ⟨rfl, rfl⟩ := Prod.mk.inj (Option.some.inj hsome)
    refine ⟨elements, ?_, hfits, ?_⟩
    · rw [walk, child?, hget]
      rfl
    · rw [Shape.segments, List.map_cons, leaves_object, hget, Option.map_some, Option.getD_some,
        leaves_array, List.flatMap_map]
      rfl

/-! ## Other fields -/

variable {s : String} {m : Bool} {fields fields' : Fields}

/-- Only the field under the first segment counts. -/
theorem Fits.congr (h : Fits ((s, m) :: shape) (.object fields))
    (hget : Fields.get? fields' s = Fields.get? fields s) :
    Fits ((s, m) :: shape) (.object fields') := by
  cases h with
  | field hv hr => exact .field (hget.trans hv) hr
  | list hitems hr => exact .list (hget.trans hitems) hr

theorem leaves_congr {r : List String} (hget : Fields.get? fields' s = Fields.get? fields s) :
    leaves (s :: r) (.object fields') = leaves (s :: r) (.object fields) := by
  rw [leaves_object, leaves_object, hget]

theorem Fits.exists_get? {o : List String} (h : Fits shape (.object fields))
    (hsegs : shape.segments = s :: o) : ∃ v, Fields.get? fields s = some v := by
  cases h with
  | leaf => cases hsegs
  | field hv _ =>
    obtain rfl := (List.cons.inj hsegs).1
    exact ⟨_, hv⟩
  | list hitems _ =>
    obtain rfl := (List.cons.inj hsegs).1
    exact ⟨_, hitems⟩

/-! ## Writing -/

/-- A scalar written along segments that are no indices gives a value of a shape without arrays. -/
theorem Fits.put {v : Json} (hv : v.isScalar) (hnone : shape.atList? = none)
    (hindex : ∀ s ∈ shape.segments, index? s = none) (j : Json) :
    Fits shape (put shape.segments v j) := by
  induction shape generalizing j with
  | nil => exact .leaf hv
  | cons m r ih =>
    obtain ⟨s, _ | _⟩ := m
    · obtain ⟨hs, hr⟩ := List.forall_mem_cons.mp hindex
      have ih := ih (Option.map_eq_none_iff.mp hnone) hr
      rw [Shape.segments, List.map_cons, ← Shape.segments]
      cases j with
      | object fields =>
        rw [Path.put]
        exact .field ((Fields.get?_insert s s _ fields).trans (if_pos rfl)) (ih _)
      | array items =>
        have hslot : slot? s items = none := by rw [slot?, hs, Option.bind_none]
        rw [put_array_of_no_slot hslot]
        exact .field ((Fields.get?_cons _ _ s).trans (if_pos rfl)) (ih _)
      | null | bool | number | string =>
        rw [Path.put]
        · exact .field ((Fields.get?_cons _ _ s).trans (if_pos rfl)) (ih _)
        · simp
        · simp
    · cases hnone

end Path

namespace Json

theorem dotFree_array_iff {items : List Json} :
    DotFree (.array items) ↔ ∀ v ∈ items, DotFree v := by
  constructor
  · rintro (_ | _ | _ | _ | h)
    exact h
  · exact .array

theorem dotFree_object_iff {fields : Fields} :
    DotFree (.object fields) ↔
      (∀ k v, (k, v) ∈ fields → '.' ∉ k.toList) ∧ ∀ k v, (k, v) ∈ fields → DotFree v := by
  constructor
  · rintro (_ | _ | _ | _ | _ | ⟨hkeys, hvalues⟩)
    exact ⟨hkeys, hvalues⟩
  · rintro ⟨hkeys, hvalues⟩
    exact .object hkeys hvalues

/-- Freedom from dots is a property of the keys of each object. -/
theorem dotFree_iff_everywhere {j : Json} :
    DotFree j ↔ Everywhere (fun fields => ∀ k ∈ fields.keys, '.' ∉ k.toList) j := by
  constructor
  · intro h
    induction h with
    | null => exact .null
    | bool b => exact .bool b
    | number n => exact .number n
    | string s => exact .string s
    | array _ ih => exact .array ih
    | object hkeys _ ih =>
      refine .object (fun k hk => ?_) fun e he => ih e.1 e.2 he
      obtain ⟨e, he, rfl⟩ := List.mem_map.mp hk
      exact hkeys e.1 e.2 he
  · intro h
    induction h with
    | null => exact .null
    | bool b => exact .bool b
    | number n => exact .number n
    | string s => exact .string s
    | array _ ih => exact .array ih
    | object hkeys _ ih =>
      exact .object (fun k v hv => hkeys k (Fields.mem_keys hv)) fun k v hv => ih (k, v) hv

theorem DotFree.not_mem_key {fields : Fields} (h : DotFree (.object fields)) {k : String}
    (hk : k ∈ fields.keys) : '.' ∉ k.toList :=
  (everywhere_object_iff.mp (dotFree_iff_everywhere.mp h)).1 k hk

theorem DotFree.get? {fields : Fields} (h : DotFree (.object fields)) {k : String} {v : Json}
    (hv : Fields.get? fields k = some v) : DotFree v :=
  dotFree_iff_everywhere.mpr ((dotFree_iff_everywhere.mp h).get? hv)

theorem DotFree.of_isScalar {v : Json} (hv : v.isScalar) : DotFree v :=
  dotFree_iff_everywhere.mpr (.of_isScalar hv)

private theorem dot_not_mem_insert {s : String} (hs : '.' ∉ s.toList) (v : Json) (fields : Fields)
    (h : ∀ k ∈ fields.keys, '.' ∉ k.toList) :
    ∀ k ∈ Fields.keys (Fields.insert s v fields), '.' ∉ k.toList := by
  intro k hk
  obtain ⟨e, he, rfl⟩ := List.mem_map.mp hk
  rcases Fields.mem_of_mem_insert he with rfl | he
  · exact hs
  · exact h e.1 (Fields.mem_keys he)

theorem DotFree.insert {fields : Fields} (h : DotFree (.object fields)) {s : String}
    (hs : '.' ∉ s.toList) {v : Json} (hv : DotFree v) :
    DotFree (.object (Fields.insert s v fields)) := by
  have hfields := dotFree_iff_everywhere.mp h
  refine dotFree_iff_everywhere.mpr (hfields.insert (dotFree_iff_everywhere.mp hv) ?_)
  exact dot_not_mem_insert hs v fields (everywhere_object_iff.mp hfields).1

theorem DotFree.walk {segs : List String} {j v : Json} (h : DotFree j)
    (hv : Path.walk segs j = some v) : DotFree v :=
  dotFree_iff_everywhere.mpr ((dotFree_iff_everywhere.mp h).walk hv)

theorem DotFree.put {segs : List String} (hsegs : ∀ s ∈ segs, '.' ∉ s.toList) {v j : Json}
    (hv : DotFree v) (hj : DotFree j) : DotFree (Path.put segs v j) :=
  dotFree_iff_everywhere.mpr <|
    .put nofun (fun s hs v fields => dot_not_mem_insert (hsegs s hs) v fields)
      (dotFree_iff_everywhere.mp hv) (dotFree_iff_everywhere.mp hj)

end Json
end GraphLoad
