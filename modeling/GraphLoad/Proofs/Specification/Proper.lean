import GraphLoad.Proofs.Json.Everywhere
import GraphLoad.Proofs.Specification.Round

/-!
# Properties that expansion keeps

What holds of every object in the records of a group, at any depth, and is kept by every write, holds
in the expanded group (`everywhere_expand`). In particular no key stands twice there
(`proper_expand`).
-/

namespace GraphLoad

open Json (Everywhere Proper)

variable {P : Fields → Prop}

namespace Record

variable {r : Record}

theorem walk_of_heldAt_eq_list {path : String} {items : List Json}
    (h : r.heldAt path = .list items) :
    Path.walk (Path.segments path) (.object r) = some (.array items) := by
  rw [heldAt] at h
  split at h
  · cases h
  · rename_i found
    obtain rfl := Held.list.inj h
    rw [Path.resolveIn_eq] at found
    exact (Option.filter_eq_some_iff.mp found).1
  · cases h

theorem everywhere_carried (h : Everywhere P (.object r)) {key path : String} {value : Json}
    (hc : r.carried key = some (path, value)) : Everywhere P value := by
  rw [carried, endpointValue?_eq] at hc
  split at hc
  · rename_i v hv
    obtain ⟨rfl, rfl⟩ := Prod.mk.inj (Option.some.inj hc)
    exact .of_isScalar (scalarAt?_eq_some_iff.mp hv).1
  · obtain ⟨v, hv, he⟩ := Option.map_eq_some_iff.mp hc
    obtain ⟨rfl, rfl⟩ := Prod.mk.inj he
    exact h.get? hv

end Record

namespace RelationshipGroup

variable {g g' : RelationshipGroup}

theorem everywhere_cut (hnil : P []) (hinsert : ∀ k v fields, P fields → P (Fields.insert k v fields))
    (p : ListPlace) {r : Record} (h : Everywhere P (.object r)) :
    ∀ element ∈ g.cut p r, Everywhere P element := by
  intro element helement
  rw [cut] at helement
  split at helement
  · rename_i items hheld
    obtain ⟨item, hitem, rfl⟩ := List.mem_map.mp helement
    have hitem : Everywhere P item :=
      Json.everywhere_array_iff.mp (h.walk (Record.walk_of_heldAt_eq_list hheld)) item hitem
    cases hc : r.carried (g.endpoint p.side.opposite).recordKey with
    | none => exact hitem
    | some c =>
      exact .put hnil (fun s _ => hinsert s) (Record.everywhere_carried h hc) hitem
  · cases helement

theorem everywhere_round (hnil : P [])
    (hinsert : ∀ k v fields, P fields → P (Fields.insert k v fields)) (p : ListPlace)
    (h : ∀ r ∈ g.records, Everywhere P (.object r)) :
    ∀ r ∈ (g.round p).records, Everywhere P (.object r) := by
  intro e he
  obtain ⟨r, hr, hcut⟩ := mem_records_round.mp he
  exact everywhere_cut hnil hinsert p (h r hr) _ hcut

theorem everywhere_expand (hnil : P [])
    (hinsert : ∀ k v fields, P fields → P (Fields.insert k v fields)) (he : g.expand = .ok g')
    (h : ∀ r ∈ g.records, Everywhere P (.object r)) :
    ∀ r ∈ g'.records, Everywhere P (.object r) := by
  refine expand_preserves (P := fun x => ∀ r ∈ x.records, Everywhere P (.object r)) he h ?_
  exact fun hrecords _ _ _ => everywhere_round hnil hinsert _ hrecords

theorem proper_expand (he : g.expand = .ok g') (h : ∀ r ∈ g.records, Proper (.object r)) :
    ∀ r ∈ g'.records, Proper (.object r) :=
  everywhere_expand List.nodup_nil (fun k v _ hn => Fields.nodup_keys_insert hn k v) he h

end RelationshipGroup
end GraphLoad
