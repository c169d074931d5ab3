import GraphLoad.Proofs.Record.Writing
import GraphLoad.Record.Property

/-!
# Values of one shape

Two values are alike if they are built alike and have their blanks in the same places (`Json.Alike`).
The outline of a value stands for all values that are like it (`alike_iff_outline_eq`). What a read or
a write does is seen from the outlines: `walk_outline`, `firstList_outline`, `put_outline`.
-/

namespace GraphLoad

namespace Json

/-- The values are of one kind, and so are their parts. Blank texts are a kind of their own, all
other scalars are another; objects have their keys in common. -/
inductive Alike : Json → Json → Prop
  | null : Alike .null .null
  | blank {s t : String} : Property.isBlank (.string s) → Property.isBlank (.string t) →
    Alike (.string s) (.string t)
  | scalar {v w : Json} : v.isScalar → w.isScalar → Property.isBlank v = false →
    Property.isBlank w = false → Alike v w
  | array {a b : List Json} : a.length = b.length → (∀ p ∈ a.zip b, Alike p.1 p.2) →
    Alike (.array a) (.array b)
  | object {f g : Fields} : f.keys = g.keys → (∀ p ∈ f.zip g, Alike p.1.2 p.2.2) →
    Alike (.object f) (.object g)

mutual

/-- The value with every blank text as the empty one and every other scalar as `true`. -/
def outline : Json → Json
  | .null => .null
  | .bool _ => .bool true
  | .number _ => .bool true
  | .string s => if Property.isBlank (.string s) then .string "" else .bool true
  | .array items => .array (outlineItems items)
  | .object fields => .object (outlineFields fields)

def outlineItems : List Json → List Json
  | [] => []
  | v :: r => outline v :: outlineItems r

def outlineFields : List (String × Json) → List (String × Json)
  | [] => []
  | (k, v) :: r => (k, outline v) :: outlineFields r

end

end Json

/-- The fields with the outlines of their values. -/
abbrev Fields.outline (fields : Fields) : Fields :=
  fields.mapValues Json.outline

namespace Json

@[simp]
theorem outline_array (items : List Json) :
    (array items).outline = .array (items.map outline) := by
  rw [outline]
  congr 1
  induction items with
  | nil => rfl
  | cons v r ih => rw [outlineItems, ih, List.map_cons]

@[simp]
theorem outline_object (fields : Fields) : (object fields).outline = .object fields.outline := by
  rw [outline]
  congr 1
  induction fields with
  | nil => rfl
  | cons e r ih =>
    rw [outlineFields, ih]
    rfl

theorem outline_of_isScalar {v : Json} (hv : v.isScalar) (hblank : Property.isBlank v = false) :
    v.outline = .bool true := by
  cases v with
  | null | array | object => exact absurd hv Bool.false_ne_true
  | bool | number => rfl
  | string s => rw [outline, hblank, if_neg Bool.false_ne_true]

theorem outline_of_isBlank {s : String} (h : Property.isBlank (.string s)) :
    (string s).outline = .string "" := by
  rw [outline, if_pos h]

theorem outline_string (s : String) :
    (string s).outline = .string "" ∨ (string s).outline = .bool true := by
  rw [outline]
  split
  · exact .inl rfl
  · exact .inr rfl

private theorem map_eq_map_iff_zip {α β : Type} (f : α → β) {a b : List α} :
    a.map f = b.map f ↔ a.length = b.length ∧ ∀ p ∈ a.zip b, f p.1 = f p.2 := by
  induction a generalizing b with
  | nil => cases b <;> simp
  | cons x a ih =>
    cases b with
    | nil => simp
    | cons y b => simp [ih, and_left_comm]

private theorem outline_fields_eq_iff {f g : Fields} :
    f.outline = g.outline ↔
      f.keys = g.keys ∧ ∀ p ∈ f.zip g, p.1.2.outline = p.2.2.outline := by
  rw [Fields.outline, Fields.mapValues, Fields.outline, Fields.mapValues, map_eq_map_iff_zip,
    Fields.keys, Fields.keys, map_eq_map_iff_zip, and_assoc]
  simp only [Prod.mk.injEq, forall_and]

/-- Values that are alike have one outline. -/
theorem Alike.outline_eq {v w : Json} (h : Alike v w) : v.outline = w.outline := by
  induction h with
  | null => rfl
  | blank hs ht => rw [outline_of_isBlank hs, outline_of_isBlank ht]
  | scalar hv hw hbv hbw => rw [outline_of_isScalar hv hbv, outline_of_isScalar hw hbw]
  | array hlength _ ih =>
    rw [outline_array, outline_array, (map_eq_map_iff_zip outline).mpr ⟨hlength, ih⟩]
  | object hkeys _ ih =>
    rw [outline_object, outline_object, outline_fields_eq_iff.mpr ⟨hkeys, ih⟩]

variable (v : Json)

@[simp]
theorem isBlank_outline : Property.isBlank v.outline = Property.isBlank v := by
  cases v with
  | null | bool | number => rfl
  | array | object => simp [Property.isBlank]
  | string s =>
    rw [outline]
    split
    · rename_i h
      rw [h]
      decide
    · rename_i h
      rw [Bool.eq_false_iff.mpr h]
      rfl

@[simp]
theorem isArray_outline : v.outline.isArray = v.isArray := by
  cases v with
  | null | bool | number => rfl
  | array | object => simp [isArray]
  | string s => rcases outline_string s with h | h <;> rw [h] <;> rfl

@[simp]
theorem isNull_outline : v.outline.isNull = v.isNull := by
  cases v with
  | null | bool | number => rfl
  | array | object => simp [isNull]
  | string s => rcases outline_string s with h | h <;> rw [h] <;> rfl

@[simp]
theorem isScalar_outline : v.outline.isScalar = v.isScalar := by
  cases v with
  | null | bool | number => rfl
  | array | object => simp [isScalar]
  | string s => rcases outline_string s with h | h <;> rw [h] <;> rfl

private theorem alike_of_isScalar {v w : Json} (hv : v.isScalar)
    (hblank : Property.isBlank v = false) (h : v.outline = w.outline) : Alike v w := by
  have hw := isScalar_outline w
  have hblankw := isBlank_outline w
  rw [← h, isScalar_outline, hv] at hw
  rw [← h, isBlank_outline, hblank] at hblankw
  exact .scalar hv hw.symm hblank hblankw.symm

/-- A value is like every value that has its outline. -/
theorem alike_of_outline_eq {v w : Json} (h : v.outline = w.outline) : Alike v w := by
  induction v generalizing w with
  | bool | number => exact alike_of_isScalar rfl rfl h
  | null =>
    cases w with
    | null => exact .null
    | bool | number | array | object => cases h
    | string t => rcases outline_string t with ht | ht <;> rw [ht] at h <;> cases h
  | string s =>
    cases hs : Property.isBlank (.string s) with
    | false => exact alike_of_isScalar rfl hs h
    | true =>
      rw [outline_of_isBlank hs] at h
      cases w with
      | null | bool | number | array | object => cases h
      | string t =>
        refine .blank hs ?_
        rw [← isBlank_outline, ← h]
        decide
  | array a ih =>
    cases w with
    | null | bool | number | object => cases h
    | string t => rcases outline_string t with ht | ht <;> rw [ht] at h <;> cases h
    | array b =>
      rw [outline_array, outline_array, array.injEq, map_eq_map_iff_zip] at h
      exact .array h.1 fun p hp => ih p.1 (List.of_mem_zip hp).1 (h.2 p hp)
  | object f ih =>
    cases w with
    | null | bool | number | array => cases h
    | string t => rcases outline_string t with ht | ht <;> rw [ht] at h <;> cases h
    | object g =>
      rw [outline_object, outline_object, object.injEq, outline_fields_eq_iff] at h
      exact .object h.1 fun p hp => ih p.1 (List.of_mem_zip hp).1 (h.2 p hp)

theorem alike_iff_outline_eq {v w : Json} : Alike v w ↔ v.outline = w.outline :=
  ⟨Alike.outline_eq, alike_of_outline_eq⟩

theorem Alike.symm {v w : Json} (h : Alike v w) : Alike w v :=
  alike_of_outline_eq h.outline_eq.symm

instance (v w : Json) : Decidable (Alike v w) :=
  decidable_of_iff _ alike_iff_outline_eq.symm

end Json

/-! ## Paths -/

namespace Path

theorem child?_outline (s : String) (j : Json) :
    child? s j.outline = (child? s j).map Json.outline := by
  cases j with
  | null | bool | number => rfl
  | string t => rcases Json.outline_string t with h | h <;> rw [h] <;> rfl
  | array items =>
    rw [Json.outline_array, child?, child?]
    cases index? s with
    | none => rfl
    | some i => rw [Option.bind_some, Option.bind_some, List.getElem?_map]
  | object fields => rw [Json.outline_object, child?, child?, Fields.get?_mapValues]

theorem walk_outline (segs : List String) (j : Json) :
    walk segs j.outline = (walk segs j).map Json.outline := by
  induction segs generalizing j with
  | nil => rfl
  | cons s r ih =>
    rw [walk, walk, child?_outline]
    cases child? s j with
    | none => rfl
    | some c => exact ih c

theorem firstList_outline (segs : List String) (j : Json) :
    firstList segs j.outline = firstList segs j := by
  induction segs generalizing j with
  | nil => rfl
  | cons s r ih =>
    rw [firstList, firstList, child?_outline]
    cases child? s j with
    | none => rfl
    | some c =>
      rw [Option.map_some]
      dsimp only
      rw [Json.isArray_outline, ih]

theorem put_outline (segs : List String) (v j : Json) :
    put segs v.outline j.outline = (put segs v j).outline := by
  induction segs generalizing j with
  | nil => rfl
  | cons s r ih =>
    have ihNull : put r v.outline .null = (put r v .null).outline := ih .null
    have single : Json.object [(s, put r v.outline .null)] =
        (Json.object [(s, put r v .null)]).outline := by
      rw [ihNull, Json.outline_object]
      rfl
    cases j with
    | null | bool | number => exact single
    | string t =>
      rcases Json.outline_string t with h | h
      all_goals
        rw [h]
        exact single
    | array items =>
      rw [Json.outline_array]
      cases hs : slot? s items with
      | none =>
        have hs' : slot? s (items.map Json.outline) = none := by
          rw [slot?] at hs ⊢
          cases hi : index? s with
          | none => rfl
          | some i =>
            rw [hi] at hs
            simpa using hs
        rw [put_array_of_no_slot hs, put_array_of_no_slot hs', single]
      | some found =>
        obtain ⟨i, item⟩ := found
        obtain ⟨hindex, hitem⟩ := slot?_eq_some_iff.mp hs
        have hs' : slot? s (items.map Json.outline) = some (i, item.outline) :=
          slot?_eq_some_iff.mpr ⟨hindex, by rw [List.getElem?_map, hitem, Option.map_some]⟩
        rw [put_array_of_slot? hs, put_array_of_slot? hs', ih, Json.outline_array, List.map_set]
    | object fields =>
      have hold : ((Fields.get? fields s).map Json.outline).getD .null =
          ((Fields.get? fields s).getD .null).outline := by
        cases Fields.get? fields s <;> rfl
      rw [Json.outline_object, put, put, Fields.get?_mapValues, hold, ih, Fields.insert_mapValues,
        Json.outline_object]

end Path
end GraphLoad
