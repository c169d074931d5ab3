import GraphLoad.Proofs.Traversal
import GraphLoad.Specification.Expansion

/-!
# One round of expansion

`expandAt_eq_ok_iff`: a round succeeds if something follows the list and no record holds anything
else in its place. Then every record is cut into its elements, in order, and one record key is
shortened.
-/

namespace GraphLoad

namespace Record

/-- An element with what is carried into it. -/
def takeIn (e : Record) : Option (String × Json) → Record
  | some (path, value) => (ofElement? (Path.withValueAt (.object e) path value)).getD e
  | none => e

theorem object_takeIn (e : Record) (path : String) (value : Json) :
    .object (e.takeIn (some (path, value))) = Path.put (Path.segments path) value (.object e) := by
  obtain ⟨s, o, hsegs⟩ := List.exists_cons_of_ne_nil (Path.segments_ne_nil path)
  rw [takeIn, Path.withValueAt, hsegs, Path.put]
  rfl

theorem carry_object (e : Record) (c : Option (String × Json)) :
    carry (.object e) c = .object (e.takeIn c) := by
  cases c with
  | none => rfl
  | some c => rw [object_takeIn, carry, Path.withValueAt]

/-- Only the field under the first segment changes. -/
theorem takeIn_eq_insert {path s : String} {o : List String} (hsegs : Path.segments path = s :: o)
    (value : Json) (e : Record) :
    e.takeIn (some (path, value)) =
      Fields.insert s (Path.put o value ((Fields.get? e s).getD .null)) e := by
  rw [takeIn, Path.withValueAt, hsegs, Path.put]
  rfl

end Record

/-- The elements that a record is cut into: those of its list, each with what is carried into it. -/
def RelationshipGroup.cut (g : RelationshipGroup) (p : ListPlace) (record : Record) : List Json :=
  match record.heldAt p.path with
  | .list items =>
    items.map (Record.carry · (record.carried (g.endpoint p.side.opposite).recordKey))
  | _ => []

/-- The group behind a round. -/
def RelationshipGroup.round (g : RelationshipGroup) (p : ListPlace) : RelationshipGroup :=
  { g with records := (g.records.flatMap (g.cut p)).filterMap Record.ofElement? }.setEndpoint
    { g.endpoint p.side with recordKey := p.rest } p.side

namespace RelationshipGroup

/-- A successful round of expansion. -/
def Round (g g' : RelationshipGroup) : Prop :=
  ∃ p, g.nextList? = some p ∧ g.expandAt p = .ok g'

variable {g g' : RelationshipGroup} {p : ListPlace}

/-- The second group has the settings of the first: all but its records and its record keys. -/
structure KeepsSettings (g h : RelationshipGroup) : Prop where
  type : h.type = g.type
  label : ∀ side, (h.endpoint side).label = (g.endpoint side).label
  nodeKey : ∀ side, (h.endpoint side).nodeKey = (g.endpoint side).nodeKey
  excludeKeys : h.excludeKeys = g.excludeKeys
  autoExcludeKeys : h.autoExcludeKeys = g.autoExcludeKeys
  dedupe : h.dedupe = g.dedupe

theorem forall_side {P : Side → Prop} (side : Side) (h : P side) (h' : P side.opposite) :
    ∀ side', P side' := by
  intro side'
  cases side <;> cases side' <;> assumption

@[simp]
theorem records_round (g : RelationshipGroup) (p : ListPlace) :
    (g.round p).records = (g.records.flatMap (g.cut p)).filterMap Record.ofElement? := by
  rw [round]
  cases p.side <;> rfl

@[simp]
theorem type_round (g : RelationshipGroup) (p : ListPlace) : (g.round p).type = g.type := by
  rw [round]
  cases p.side <;> rfl

@[simp]
theorem endpoint_round (g : RelationshipGroup) (p : ListPlace) :
    (g.round p).endpoint p.side = { g.endpoint p.side with recordKey := p.rest } := by
  rw [round]
  cases p.side <;> rfl

@[simp]
theorem endpoint_opposite_round (g : RelationshipGroup) (p : ListPlace) :
    (g.round p).endpoint p.side.opposite = g.endpoint p.side.opposite := by
  rw [round]
  cases p.side <;> rfl

theorem KeepsSettings.refl (g : RelationshipGroup) : g.KeepsSettings g :=
  ⟨rfl, fun _ => rfl, fun _ => rfl, rfl, rfl, rfl⟩

theorem KeepsSettings.round (h : g.KeepsSettings g') (p : ListPlace) :
    g.KeepsSettings (g'.round p) := by
  obtain ⟨htype, hlabel, hnodeKey, hexclude, hauto, hdedupe⟩ := h
  refine ⟨(g'.type_round p).trans htype, forall_side p.side ?_ ?_, forall_side p.side ?_ ?_, ?_, ?_, ?_⟩
  · rw [endpoint_round, ← hlabel]
  · rw [endpoint_opposite_round, ← hlabel]
  · rw [endpoint_round, ← hnodeKey]
  · rw [endpoint_opposite_round, ← hnodeKey]
  · rw [← hexclude, RelationshipGroup.round]
    cases p.side <;> rfl
  · rw [← hauto, RelationshipGroup.round]
    cases p.side <;> rfl
  · rw [← hdedupe, RelationshipGroup.round]
    cases p.side <;> rfl

/-- The records behind a round are the objects among the elements. -/
theorem mem_records_round {e : Record} :
    e ∈ (g.round p).records ↔ ∃ r ∈ g.records, .object e ∈ g.cut p r := by
  have hobject : ∀ element, Record.ofElement? element = some e ↔ element = .object e := by
    intro element
    cases element <;> simp [Record.ofElement?]
  simp only [records_round, List.mem_filterMap, hobject, exists_eq_right, List.mem_flatMap]

theorem split_eq_ok_iff {record : Record} {index : Nat} {elements : List Json} :
    g.split p record index = .ok elements ↔
      record.heldAt p.path ≠ .other ∧ g.cut p record = elements := by
  rw [split, cut]
  cases record.heldAt p.path with
  | nothing => simp
  | list items => simp
  | other => simp

theorem splitAll_eq (g : RelationshipGroup) (p : ListPlace) :
    g.splitAll p = (g.records.zipIdx.mapM fun x => g.split p x.1 x.2).map
      fun elements => elements.flatten.filterMap Record.ofElement? := rfl

theorem splitAll_eq_ok_iff {records : List Record} :
    g.splitAll p = .ok records ↔ (∀ r ∈ g.records, r.heldAt p.path ≠ .other) ∧
      (g.records.flatMap (g.cut p)).filterMap Record.ofElement? = records := by
  have hsplit : ∀ ls, (g.records.zipIdx.mapM fun x => g.split p x.1 x.2) = .ok ls ↔
      (∀ r ∈ g.records, r.heldAt p.path ≠ .other) ∧ g.records.map (g.cut p) = ls := by
    intro ls
    rw [Traversal.mapM_eq_ok_iff_forall (P := fun x => x.1.heldAt p.path ≠ .other)
      (k := fun x => g.cut p x.1) fun _ _ => split_eq_ok_iff]
    conv_rhs => rw [← List.zipIdx_map_fst 0 g.records, List.forall_mem_map, List.map_map]
    rfl
  rw [splitAll_eq, List.flatMap_def]
  cases hm : g.records.zipIdx.mapM fun x => g.split p x.1 x.2 with
  | error e =>
    have hother : ¬∀ r ∈ g.records, r.heldAt p.path ≠ .other := fun h => by
      rw [(hsplit _).mpr ⟨h, rfl⟩] at hm
      cases hm
    simp only [hother, false_and, iff_false]
    exact nofun
  | ok ls =>
    obtain ⟨hlists, rfl⟩ := (hsplit ls).mp hm
    rw [Except.map, Except.ok.injEq, and_iff_right hlists]

/-- When a round succeeds, and with which group. -/
theorem expandAt_eq_ok_iff :
    g.expandAt p = .ok g' ↔
      p.rest ≠ "" ∧ (∀ r ∈ g.records, r.heldAt p.path ≠ .other) ∧ g' = g.round p := by
  rw [expandAt]
  split
  · rename_i hrest
    simp [String.isEmpty_iff.mp hrest]
  · rename_i hrest
    have hne : p.rest ≠ "" := fun h => hrest (String.isEmpty_iff.mpr h)
    cases hs : g.splitAll p with
    | error e =>
      have hother : ¬∀ r ∈ g.records, r.heldAt p.path ≠ .other := fun h => by
        rw [splitAll_eq_ok_iff.mpr ⟨h, rfl⟩] at hs
        cases hs
      simp only [hother, false_and, and_false, iff_false]
      exact nofun
    | ok records =>
      obtain ⟨hlists, rfl⟩ := splitAll_eq_ok_iff.mp hs
      rw [Except.map, Except.ok.injEq, and_iff_right hne, and_iff_right hlists, eq_comm, round]

/-! ## All rounds -/

/-- The list on the way to an end is where the walk along the record key first lands on one. -/
theorem exists_firstList_of_listOn? {record : Record} {side : Side}
    (h : g.listOn? record side = some p) : p.side = side ∧ ∃ before after,
      Path.firstList (Path.segments (g.endpoint side).recordKey) (.object record) =
        some (before, after) ∧ p.path = Path.join before ∧ p.rest = Path.join after := by
  rw [listOn?] at h
  split at h
  · cases h
  · obtain ⟨⟨before, after⟩, hlist, rfl⟩ := Option.map_eq_some_iff.mp h
    exact ⟨rfl, before, after, hlist, rfl, rfl⟩

/-- The list to expand next is one that the first record has. -/
theorem exists_first_of_nextList? (h : g.nextList? = some p) :
    ∃ first, g.records.head? = some first ∧ g.listOn? first p.side = some p := by
  rw [nextList?] at h
  split at h
  · cases h
  · rename_i first rs hrs
    refine ⟨first, by rw [hrs, List.head?_cons], ?_⟩
    rcases Option.or_eq_some_iff.mp h with h | ⟨-, h⟩ <;> rwa [(exists_firstList_of_listOn? h).1]

/-- Nothing is to be expanded if the first record has no list on the way to either end. -/
theorem nextList?_eq_none_iff :
    g.nextList? = none ↔
      ∀ first, g.records.head? = some first → ∀ side, g.listOn? first side = none := by
  rw [nextList?]
  split
  · rename_i hnil
    simp [hnil]
  · rename_i first rs hrs
    rw [Option.or_eq_none_iff, hrs, List.head?_cons]
    constructor
    · rintro ⟨htarget, hsource⟩ _ hfirst side
      obtain rfl := Option.some.inj hfirst
      cases side with
      | source => exact hsource
      | target => exact htarget
    · exact fun h => ⟨h first rfl .target, h first rfl .source⟩

theorem expand_of_nextList?_eq_none (h : g.nextList? = none) : g.expand = .ok g := by
  rw [expand]
  split
  · rfl
  · rename_i hp
    rw [h] at hp
    cases hp

theorem expand_of_expandAt (h : g.nextList? = some p) (he : g.expandAt p = .ok g') :
    g.expand = g'.expand := by
  rw [expand]
  split
  · rename_i hp
    rw [h] at hp
    cases hp
  · rename_i q hq
    obtain rfl := Option.some.inj (h.symm.trans hq)
    split
    · rename_i heq
      rw [he] at heq
      cases heq
    · rename_i heq
      rw [he] at heq
      cases heq
      rfl

theorem expand_of_expandAt_eq_error {e : ExpansionError} (h : g.nextList? = some p)
    (he : g.expandAt p = .error e) : g.expand = .error e := by
  rw [expand]
  split
  · rename_i hp
    rw [h] at hp
    cases hp
  · rename_i q hq
    obtain rfl := Option.some.inj (h.symm.trans hq)
    split
    · rename_i heq
      rw [he] at heq
      exact heq.symm
    · rename_i heq
      rw [he] at heq
      cases heq

/-- Induction over the rounds that lead to an expanded group, from the last one back. -/
@[elab_as_elim]
theorem expand_induction {motive : ∀ g : RelationshipGroup, g.expand = .ok g' → Prop}
    (done : ∀ hnone : g'.nextList? = none, motive g' (expand_of_nextList?_eq_none hnone))
    (round : ∀ {g p} (hp : g.nextList? = some p) (hrest : p.rest ≠ "")
      (hlists : ∀ r ∈ g.records, r.heldAt p.path ≠ .other) (h : (g.round p).expand = .ok g'),
      motive (g.round p) h → motive g
        ((expand_of_expandAt hp (expandAt_eq_ok_iff.mpr ⟨hrest, hlists, rfl⟩)).trans h))
    {g : RelationshipGroup} (h : g.expand = .ok g') : motive g h := by
  induction g using expand.induct with
  | case1 g hnone =>
    obtain rfl := Except.ok.inj ((expand_of_nextList?_eq_none hnone).symm.trans h)
    exact done hnone
  | case2 g p hp e he =>
    rw [expand_of_expandAt_eq_error hp he] at h
    cases h
  | case3 g p hp g₁ he ih =>
    obtain ⟨hrest, hlists, rfl⟩ := expandAt_eq_ok_iff.mp he
    exact round hp hrest hlists _ (ih ((expand_of_expandAt hp he).symm.trans h))

/-- What holds of a group, and of the group behind every round, holds of the expanded group. -/
theorem expand_preserves {P : RelationshipGroup → Prop}
    (h : g.expand = .ok g') (hg : P g)
    (hround : ∀ {g p}, P g → g.nextList? = some p → p.rest ≠ "" →
      (∀ r ∈ g.records, r.heldAt p.path ≠ .other) → P (g.round p)) : P g' := by
  induction h using expand_induction with
  | done => exact hg
  | round hp hrest hlists _ ih => exact ih (hround hg hp hrest hlists)

/-- Expansion changes the records and where they hold the endpoints. -/
theorem keepsSettings_expand (h : g.expand = .ok g') : g.KeepsSettings g' :=
  expand_preserves h (.refl g) fun hx _ _ _ => hx.round _

theorem dedupe_expand (h : g.expand = .ok g') : g'.dedupe = g.dedupe :=
  (keepsSettings_expand h).dedupe

/-- The rounds go on until the first record has no list on the way to an endpoint. -/
theorem nextList?_eq_none_of_expand (h : g.expand = .ok g') : g'.nextList? = none := by
  induction h using expand_induction with
  | done hnone => exact hnone
  | round _ _ _ _ ih => exact ih

end RelationshipGroup
end GraphLoad
