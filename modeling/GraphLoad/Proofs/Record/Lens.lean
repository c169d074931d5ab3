import GraphLoad.Proofs.Record.Writing

/-!
# Paths as lenses

Reading and writing at a path fit together (`resolve_withValueAt_lens`): what is written is found, writing
what is found changes nothing, and of two writes the second counts. Beside the path a write leaves everything
as it is, unless an array on the way gives way to an object (`resolve_withValueAt_beside`).
-/

namespace GraphLoad.Path

/-! ## One path -/

/-- Writing what is found changes nothing. -/
theorem put_of_walk {segs : List String} {v j : Json} (h : walk segs j = some v) :
    put segs v j = j := by
  induction segs generalizing j with
  | nil => exact (Option.some.inj h).symm
  | cons s o ih =>
    obtain ⟨c, hc, hv⟩ := Option.bind_eq_some_iff.mp h
    cases entry s j with
    | field fields =>
      have hget : Fields.get? fields s = some c := hc
      rw [put, hget, Option.getD_some, ih hv, Fields.insert_eq_self hget]
    | item hs =>
      rw [child?_array, hs] at hc
      obtain rfl := Option.some.inj hc
      obtain ⟨-, hitem⟩ := slot?_eq_some_iff.mp hs
      obtain ⟨hlt, hget⟩ := List.getElem?_eq_some_iff.mp hitem
      rw [put_array_of_slot? hs, ih hv, ← hget, List.set_getElem_self]
    | misfit hnone _ =>
      rw [hnone] at hc
      cases hc

theorem slot?_set {s : String} {items : List Json} {i : Nat} {item : Json}
    (h : slot? s items = some (i, item)) (x : Json) : slot? s (items.set i x) = some (i, x) := by
  obtain ⟨hindex, hitem⟩ := slot?_eq_some_iff.mp h
  obtain ⟨hlt, -⟩ := List.getElem?_eq_some_iff.mp hitem
  exact slot?_eq_some_iff.mpr ⟨hindex, List.getElem?_set_self hlt⟩

/-- Of two writes the second counts. -/
theorem put_put (segs : List String) (v w j : Json) : put segs w (put segs v j) = put segs w j := by
  induction segs generalizing j with
  | nil => rfl
  | cons s o ih =>
    have hfield : ∀ fields, put (s :: o) w (put (s :: o) v (.object fields)) =
        put (s :: o) w (.object fields) := by
      intro fields
      rw [put, put, Fields.get?_insert, if_pos rfl, Option.getD_some, ih, Fields.insert_insert, put]
    cases entry s j with
    | field fields => exact hfield fields
    | item hs =>
      rw [put_array_of_slot? hs, put_array_of_slot? (slot?_set hs _), ih, List.set_set,
        put_array_of_slot? hs]
    | misfit _ hput => rw [hput, hput o w, hfield]

/-- A path is a lens, whatever it meets in the base: a value other than `null` that is written is found,
writing what is found changes nothing, and of two writes the second counts. -/
theorem resolve_withValueAt_lens {path : String} (hpath : path ≠ "") (base v w : Json) :
    (v ≠ .null → resolve path (withValueAt base path v) = some v) ∧
      (resolve path base = some v → withValueAt base path v = base) ∧
      withValueAt (withValueAt base path v) path w = withValueAt base path w := by
  refine ⟨fun hv => ?_, fun hv => ?_, put_put (segments path) v w base⟩
  · have hpresent : v.isNull = false := by
      cases v with
      | null => exact absurd rfl hv
      | bool | number | string | array | object => rfl
    rw [resolve_eq hpath, withValueAt, walk_put_self, present, Option.filter_some, hpresent]
    rfl
  · rw [resolve_eq hpath, present, Option.filter_eq_some_iff] at hv
    exact put_of_walk hv.1

/-- An index is read and written alike in any spelling. -/
theorem resolve_withValueAt_padded_index :
    let path := "l. +01.v"
    let base := Json.object [("l", .array [.null, .object [("v", .string "x")]])]
    path ≠ "" ∧ resolve path base = some (.string "x") ∧ withValueAt base path (.string "x") = base ∧
      resolve path (withValueAt base path (.string "y")) = some (.string "y") ∧
      withValueAt (withValueAt base path (.string "y")) path .null = withValueAt base path .null := by
  intro path base
  have hpath : path ≠ "" := by decide
  have hfound : resolve path base = some (.string "x") := by decide
  obtain ⟨-, hkept, -⟩ := resolve_withValueAt_lens hpath base (.string "x") .null
  obtain ⟨hread, -, htwice⟩ := resolve_withValueAt_lens hpath base (.string "y") .null
  exact ⟨hpath, hfound, hkept hfound, hread (by decide), htwice⟩

/-! ## Two paths -/

/-- Two lists that part have leading elements in common, behind which they differ. -/
theorem exists_fork {a b : List String} (hab : ¬a <+: b) (hba : ¬b <+: a) :
    ∃ lead s o t r, a = lead ++ s :: o ∧ b = lead ++ t :: r ∧ s ≠ t := by
  induction a generalizing b with
  | nil => exact absurd List.nil_prefix hab
  | cons s o ih =>
    cases b with
    | nil => exact absurd List.nil_prefix hba
    | cons t r =>
      by_cases hst : s = t
      · subst hst
        rw [List.prefix_cons_inj] at hab hba
        obtain ⟨lead, s', o', t', r', rfl, rfl, hne⟩ := ih hab hba
        exact ⟨s :: lead, s', o', t', r', rfl, rfl, hne⟩
      · exact ⟨[], s, o, t, r, rfl, rfl, hst⟩

/-- A write below one segment of a value spares what is below another: the value is no array, or the first
segment is an index within its bounds and the second does not denote the same. -/
def Spares (s t : String) : Json → Prop
  | .array items => ∃ i, index? s = some i ∧ i < items.length ∧ index? t ≠ some i
  | _ => True

variable {s t : String} {lead : List String} {j : Json}

theorem child?_put_of_spares (hst : s ≠ t) (h : Spares s t j) (o : List String) (v : Json) :
    child? t (put (s :: o) v j) = child? t j := by
  cases j with
  | array items =>
    obtain ⟨i, hs, hlt, ht⟩ := h
    have hslot : slot? s items = some (i, items[i]) :=
      slot?_eq_some_iff.mpr ⟨hs, List.getElem?_eq_getElem hlt⟩
    rw [put_array_of_slot? hslot, child?, child?]
    refine Option.bind_congr fun k hk => List.getElem?_set_ne ?_
    rintro rfl
    exact ht hk
  | null | bool | number | string | object => exact child?_put_of_isArray_eq_false hst rfl o v

theorem walk_put_of_spares (hst : s ≠ t) (h : Spares s t ((walk lead j).getD .null))
    (o r : List String) (v : Json) :
    walk (lead ++ t :: r) (put (lead ++ s :: o) v j) = walk (lead ++ t :: r) j := by
  rw [walk_append, walk_append, walk_put_append, Option.bind_some, walk, child?_put_of_spares hst h]
  cases walk lead j with
  | none => rfl
  | some c => rfl

/-- An array that gives way to an object takes along what is below another segment. -/
theorem walk_put_of_no_slot (hst : s ≠ t) {items : List Json}
    (hlead : walk lead j = some (.array items)) (hslot : slot? s items = none)
    (o r : List String) (v : Json) : walk (lead ++ t :: r) (put (lead ++ s :: o) v j) = none := by
  rw [walk_append, walk_put_append, Option.bind_some, hlead, Option.getD_some,
    put_array_of_no_slot hslot, walk, child?_singleton hst, Option.bind_none]

theorem resolve_congr {path : String} {a b : Json} (h : walk (segments path) a = walk (segments path) b) :
    resolve path a = resolve path b := by
  rw [resolve, resolve, h]

/-- Two paths of which neither leads through the other part behind some segments that they have in common.
If these lead to no array, or to one in which the first path goes on with an index within its bounds and the
second does not go on with the same, then a write at the first path leaves what is found at the second.
An array without a place for the write gives way to an object, and nothing is found at the second path. -/
theorem resolve_withValueAt_beside {p q : String} (hpq : ¬segments p <+: segments q)
    (hqp : ¬segments q <+: segments p) (base v : Json) :
    ∃ lead s o t r, segments p = lead ++ s :: o ∧ segments q = lead ++ t :: r ∧ s ≠ t ∧
      (((∀ items, walk lead base ≠ some (.array items)) ∨
          ∃ items i, walk lead base = some (.array items) ∧ index? s = some i ∧ i < items.length ∧
            index? t ≠ some i) →
        resolve q (withValueAt base p v) = resolve q base) ∧
      ((∃ items, walk lead base = some (.array items) ∧ slot? s items = none) →
        resolve q (withValueAt base p v) = none) := by
  obtain ⟨lead, s, o, t, r, hp, hq, hst⟩ := exists_fork hpq hqp
  refine ⟨lead, s, o, t, r, hp, hq, hst, fun hlead => resolve_congr ?_, ?_⟩
  · rw [withValueAt, hp, hq]
    refine walk_put_of_spares hst ?_ o r v
    rcases hlead with hnone | ⟨items, i, hitems, hindex⟩
    · cases hwalk : walk lead base with
      | none => trivial
      | some c =>
        cases c with
        | array items => exact absurd hwalk (hnone items)
        | null | bool | number | string | object => trivial
    · rw [hitems]
      exact ⟨i, hindex⟩
  · rintro ⟨items, hitems, hslot⟩
    rw [resolve, withValueAt, hp, hq, walk_put_of_no_slot hst hitems hslot]
    exact ite_self none

/-- Two elements of one list, the written one under a padded index. -/
theorem resolve_withValueAt_beside_padded_index :
    let p := "l.01.v"
    let q := "l.+0.v"
    let base := Json.object [("l", .array [.object [("v", .string "x")], .null])]
    ¬segments p <+: segments q ∧ ¬segments q <+: segments p ∧
      ∀ v, resolve q (withValueAt base p v) = some (.string "x") := by
  intro p q base
  have hp : segments p = ["l", "01", "v"] := by decide
  have hq : segments q = ["l", "+0", "v"] := by decide
  have hpq : ¬segments p <+: segments q := by rw [hp, hq]; decide
  have hqp : ¬segments q <+: segments p := by rw [hp, hq]; decide
  refine ⟨hpq, hqp, fun v => ?_⟩
  obtain ⟨lead, s, o, t, r, hlead, hlead', hst, hkept, -⟩ := resolve_withValueAt_beside hpq hqp base v
  rw [hp] at hlead
  rw [hq] at hlead'
  -- the paths have the first segment in common, and differ in the second
  obtain ⟨rfl, rfl, rfl⟩ : lead = ["l"] ∧ s = "01" ∧ t = "+0" := by
    rcases lead with _ | ⟨a, _ | ⟨b, lead⟩⟩ <;> simp_all
  rw [hkept (.inr ⟨_, 1, rfl, by decide, by decide, by decide⟩)]
  decide

end GraphLoad.Path
