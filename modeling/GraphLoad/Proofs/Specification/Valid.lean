import GraphLoad.Proofs.Specification.Round
import GraphLoad.Specification.Validation
import Mathlib.Logic.Relation

/-!
# Groups without a fault

A group passes the check if and only if it is valid (`fault?_eq_none_iff`); the place where it stands is
only named in the fault. Every round of expansion shortens a record key to one that is not empty, and
leaves the rest of what makes a relationship group valid as it is (`Valid.rounds`).
-/

namespace GraphLoad

/-- There is a label to match a node on, no label and no key is empty, and every record has a value for
the key. -/
structure NodeGroup.Valid (g : NodeGroup) : Prop where
  labelled : g.labels ≠ []
  label : "" ∉ g.labels
  key : g.key ≠ ""
  keyed : ∀ r ∈ g.records, r.hasValue g.key

/-- No name is empty. -/
structure Endpoint.Valid (e : Endpoint) : Prop where
  nodeKey : e.nodeKey ≠ ""
  recordKey : e.recordKey ≠ ""
  label : e.label ≠ some ""

/-- The type is not empty, and neither is a name at either end. -/
structure RelationshipGroup.Valid (g : RelationshipGroup) : Prop where
  type : g.type ≠ ""
  endpoint : ∀ side, (g.endpoint side).Valid

/-! ## The check -/

theorem NodeGroup.fault?_eq_none_iff {g : NodeGroup} {position : Nat} :
    g.fault? position = none ↔ g.Valid := by
  rw [fault?]
  split
  · rename_i hnil
    exact iff_of_false nofun fun h => h.labelled hnil
  · rename_i label others hcons
    have hlabelled : g.labels ≠ [] := hcons ▸ List.cons_ne_nil label others
    have hlabel : g.labels.any (·.isEmpty) ↔ "" ∈ g.labels := by
      simp
    split
    · rename_i hany
      exact iff_of_false nofun fun h => h.label (hlabel.mp hany)
    · rename_i hany
      split
      · rename_i hkey
        exact iff_of_false nofun fun h => h.key (String.isEmpty_iff.mp hkey)
      · rename_i hkey
        rw [Option.map_eq_none_iff, List.findIdx?_eq_none_iff]
        constructor
        · intro hkeyed
          refine ⟨hlabelled, fun h => hany (hlabel.mpr h), fun h => hkey (String.isEmpty_iff.mpr h), ?_⟩
          exact fun r hr => by simpa using hkeyed r hr
        · exact fun h r hr => by simpa using h.keyed r hr

namespace RelationshipGroup

variable {g g' : RelationshipGroup} {p : ListPlace} {position : Nat}

theorem endpointFault?_eq_none_iff {side : Side} :
    g.endpointFault? position side = none ↔ (g.endpoint side).Valid := by
  rw [endpointFault?]
  split
  · rename_i hempty
    refine iff_of_false nofun fun h => ?_
    exact hempty.elim (fun hkey => h.nodeKey (String.isEmpty_iff.mp hkey))
      fun hkey => h.recordKey (String.isEmpty_iff.mp hkey)
  · rename_i hempty
    obtain ⟨hnode, hrecord⟩ := not_or.mp hempty
    split
    · rename_i hlabel
      exact iff_of_false nofun fun h => h.label hlabel
    · rename_i hlabel
      refine iff_of_true rfl ⟨?_, ?_, hlabel⟩
      · exact fun h => hnode (String.isEmpty_iff.mpr h)
      · exact fun h => hrecord (String.isEmpty_iff.mpr h)

theorem fault?_eq_none_iff : g.fault? position = none ↔ g.Valid := by
  rw [fault?]
  split
  · rename_i htype
    exact iff_of_false nofun fun h => h.type (String.isEmpty_iff.mp htype)
  · rename_i htype
    rw [Option.or_eq_none_iff, endpointFault?_eq_none_iff, endpointFault?_eq_none_iff]
    constructor
    · rintro ⟨hsource, htarget⟩
      refine ⟨fun h => htype (String.isEmpty_iff.mpr h), fun side => ?_⟩
      cases side with
      | source => exact hsource
      | target => exact htarget
    · exact fun h => ⟨h.endpoint .source, h.endpoint .target⟩

/-! ## Rounds of expansion -/

theorem Valid.round (h : g.Valid) (hrest : p.rest ≠ "") : (g.round p).Valid where
  type := (g.type_round p).symm ▸ h.type
  endpoint := by
    refine forall_side p.side ?_ ?_
    · rw [endpoint_round]
      exact { h.endpoint p.side with recordKey := hrest }
    · rw [endpoint_opposite_round]
      exact h.endpoint p.side.opposite

theorem Valid.rounds (h : g.Valid) (hrounds : Relation.ReflTransGen Round g g') : g'.Valid := by
  induction hrounds with
  | refl => exact h
  | tail _ hround ih =>
    obtain ⟨p, -, hexpand⟩ := hround
    obtain ⟨hrest, -, rfl⟩ := expandAt_eq_ok_iff.mp hexpand
    exact ih.round hrest

theorem Valid.expand (h : g.Valid) (he : g.expand = .ok g') : g'.Valid :=
  expand_preserves he h fun hg _ hrest _ => hg.round hrest

end RelationshipGroup

namespace Specification

variable {s : Specification}

private theorem findSome?_zipIdx_eq_none_iff {α β : Type} {f : α → Nat → Option β} {P : α → Prop}
    (h : ∀ x i, f x i = none ↔ P x) (xs : List α) :
    (xs.zipIdx.findSome? fun (x, i) => f x i) = none ↔ ∀ x ∈ xs, P x := by
  rw [List.findSome?_eq_none_iff]
  conv_rhs => rw [← List.zipIdx_map_fst 0 xs, List.forall_mem_map]
  exact forall₂_congr fun x _ => h x.1 x.2

/-- A specification passes the check if all its groups are valid. -/
theorem validate_eq_ok_iff :
    s.validate = .ok () ↔ (∀ g ∈ s.nodes, g.Valid) ∧ ∀ g ∈ s.relationships, g.Valid := by
  have hfault : s.fault? = none ↔ (∀ g ∈ s.nodes, g.Valid) ∧ ∀ g ∈ s.relationships, g.Valid := by
    rw [fault?, Option.or_eq_none_iff,
      findSome?_zipIdx_eq_none_iff (f := NodeGroup.fault?) fun _ _ => NodeGroup.fault?_eq_none_iff,
      findSome?_zipIdx_eq_none_iff (f := RelationshipGroup.fault?) fun _ _ =>
        RelationshipGroup.fault?_eq_none_iff]
  rw [← hfault, validate]
  cases s.fault? with
  | none => exact iff_of_true rfl rfl
  | some fault => exact iff_of_false nofun nofun

end Specification
end GraphLoad
