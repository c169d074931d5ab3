import GraphLoad.Proofs.Record.Writing

/-!
# Properties of objects at any depth

A property that every object in a value has, at any depth, is handed down to what is read from the
value (`Everywhere.walk`). It is kept by a write whose entries keep it (`Everywhere.put`). The one that
matters here is that no key stands twice (`Json.Proper`).
-/

namespace GraphLoad

namespace Json

/-- Every object in the value, at any depth, has the property. -/
inductive Everywhere (P : Fields → Prop) : Json → Prop
  | null : Everywhere P .null
  | bool (b : Bool) : Everywhere P (.bool b)
  | number (n : Number) : Everywhere P (.number n)
  | string (s : String) : Everywhere P (.string s)
  | array {items : List Json} : (∀ v ∈ items, Everywhere P v) → Everywhere P (.array items)
  | object {fields : Fields} : P fields → (∀ e ∈ fields, Everywhere P e.2) →
    Everywhere P (.object fields)

/-- No object in the value, at any depth, has a key twice. -/
def Proper : Json → Prop :=
  Everywhere fun fields => fields.keys.Nodup

variable {P : Fields → Prop}

theorem everywhere_array_iff {items : List Json} :
    Everywhere P (.array items) ↔ ∀ v ∈ items, Everywhere P v := by
  constructor
  · rintro (_ | _ | _ | _ | h)
    exact h
  · exact .array

theorem everywhere_object_iff {fields : Fields} :
    Everywhere P (.object fields) ↔ P fields ∧ ∀ e ∈ fields, Everywhere P e.2 := by
  constructor
  · rintro (_ | _ | _ | _ | _ | ⟨hfields, hvalues⟩)
    exact ⟨hfields, hvalues⟩
  · rintro ⟨hfields, hvalues⟩
    exact .object hfields hvalues

namespace Everywhere

theorem of_isScalar {v : Json} (hv : v.isScalar) : Everywhere P v := by
  cases v with
  | bool b => exact .bool b
  | number n => exact .number n
  | string s => exact .string s
  | null | array | object => exact absurd hv Bool.false_ne_true

theorem get? {fields : Fields} (h : Everywhere P (.object fields)) {k : String} {v : Json}
    (hv : Fields.get? fields k = some v) : Everywhere P v :=
  (everywhere_object_iff.mp h).2 _ (Fields.mem_of_get? hv)

theorem insert {fields : Fields} (h : Everywhere P (.object fields)) {k : String} {v : Json}
    (hv : Everywhere P v) (hinsert : P (Fields.insert k v fields)) :
    Everywhere P (.object (Fields.insert k v fields)) := by
  refine .object hinsert fun e he => ?_
  rcases Fields.mem_of_mem_insert he with rfl | he
  · exact hv
  · exact (everywhere_object_iff.mp h).2 e he

theorem walk {segs : List String} {j v : Json} (h : Everywhere P j)
    (hv : Path.walk segs j = some v) : Everywhere P v := by
  induction segs generalizing j with
  | nil => exact Option.some.inj hv ▸ h
  | cons s r ih =>
    obtain ⟨c, hc, hr⟩ := Option.bind_eq_some_iff.mp hv
    refine ih ?_ hr
    cases j with
    | object fields => exact h.get? hc
    | array items =>
      obtain ⟨i, -, hi⟩ := Option.bind_eq_some_iff.mp hc
      exact everywhere_array_iff.mp h _ (List.mem_of_getElem? hi)
    | null | bool | number | string => cases hc

theorem put {segs : List String} (hnil : P [])
    (hinsert : ∀ s ∈ segs, ∀ v fields, P fields → P (Fields.insert s v fields)) {v j : Json}
    (hv : Everywhere P v) (hj : Everywhere P j) : Everywhere P (Path.put segs v j) := by
  induction segs generalizing j with
  | nil => exact hv
  | cons s o ih =>
    obtain ⟨hs, ho⟩ := List.forall_mem_cons.mp hinsert
    have single : Everywhere P (.object [(s, Path.put o v .null)]) :=
      insert (.object hnil nofun) (ih ho .null) (hs _ [] hnil)
    cases j with
    | object fields =>
      rw [Path.put]
      refine hj.insert (ih ho ?_) (hs _ fields (everywhere_object_iff.mp hj).1)
      cases hget : Fields.get? fields s with
      | none => exact .null
      | some w => exact hj.get? hget
    | array items =>
      cases hslot : Path.slot? s items with
      | none =>
        rw [Path.put_array_of_no_slot hslot]
        exact single
      | some found =>
        obtain ⟨i, item⟩ := found
        have hitems := everywhere_array_iff.mp hj
        have hitem : Everywhere P item :=
          hitems _ (List.mem_of_getElem? (Path.slot?_eq_some_iff.mp hslot).2)
        rw [Path.put_array_of_slot? hslot]
        refine .array fun w hw => ?_
        rcases List.mem_or_eq_of_mem_set hw with hw | rfl
        · exact hitems w hw
        · exact ih ho hitem
    | null | bool | number | string =>
      rw [Path.put]
      · exact single
      · simp
      · simp

end Everywhere
end Json
end GraphLoad
