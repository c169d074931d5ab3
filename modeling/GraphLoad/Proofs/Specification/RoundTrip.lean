import GraphLoad.Proofs.Json.Shapes
import GraphLoad.Specification.Validation
import Mathlib.Data.String.Basic

/-!
# Specifications and their JSON

Decoding undoes encoding (`ofJson_toJson`): a specification that passes the check is given back by its own
JSON, and whatever notation a payload is in, the JSON of the specification that it stands for gives that
specification back. Each type is taken on its own: its fillings are its parts with the values that the
encoder writes.
-/

namespace GraphLoad

open Json.Decode (bool forall_of_sequence optional optional_string sequence sequence_map sequence_strings
  string)

/-! ## Sets of keys -/

namespace KeySet

/-- The members ascend, so each stands once. -/
def Ascending (set : KeySet) : Prop :=
  set.Pairwise (· < ·)

instance (set : KeySet) : Decidable set.Ascending :=
  inferInstanceAs (Decidable (List.Pairwise _ _))

variable {key : String} {set : KeySet}

theorem ascending_insert (h : set.Ascending) (key : String) : Ascending (insert key set) := by
  induction set with
  | nil => exact List.pairwise_singleton _ _
  | cons k rest ih =>
    obtain ⟨hk, hrest⟩ := List.pairwise_cons.mp h
    rw [insert]
    split
    · exact h
    · rename_i hne
      split
      · rename_i hlt
        exact List.pairwise_cons.mpr ⟨List.forall_mem_cons.mpr ⟨hlt, fun l hl => hlt.trans (hk l hl)⟩, h⟩
      · rename_i hnlt
        have hlt : k < key := lt_of_le_of_ne (not_lt.mp hnlt) (Ne.symm hne)
        refine List.pairwise_cons.mpr ⟨fun l hl => ?_, ih hrest⟩
        obtain rfl | hl := mem_insert.mp hl
        · exact hlt
        · exact hk l hl

theorem ascending_ofList (keys : List String) : Ascending (ofList keys) := by
  have key : ∀ set : KeySet, set.Ascending →
      Ascending (keys.foldl (fun set key => insert key set) set) := by
    induction keys with
    | nil => exact fun _ h => h
    | cons k rest ih => exact fun set h => ih _ (ascending_insert h k)
  exact key [] .nil

theorem insert_of_forall_lt (h : ∀ k ∈ set, k < key) : insert key set = set ++ [key] := by
  induction set with
  | nil => rfl
  | cons k rest ih =>
    obtain ⟨hk, hrest⟩ := List.forall_mem_cons.mp h
    rw [insert, if_neg hk.ne', if_neg hk.asymm, ih hrest, List.cons_append]

theorem ofList_of_ascending (h : set.Ascending) : ofList set = set := by
  have key : ∀ before : KeySet, Ascending (before ++ set) →
      set.foldl (fun set key => insert key set) before = before ++ set := by
    clear h
    induction set with
    | nil => exact fun before _ => (List.append_nil before).symm
    | cons k rest ih =>
      intro before h
      have hk : ∀ l ∈ before, l < k := fun l hl =>
        (List.pairwise_append.mp h).2.2 l hl k List.mem_cons_self
      rw [List.append_cons] at h
      rw [List.foldl_cons, insert_of_forall_lt hk, ih _ h, ← List.append_cons]
  exact key [] h

theorem decode_strings (h : set.Ascending) : decode (.strings set) = .ok set := by
  rw [decode, sequence_strings]
  exact congrArg Except.ok (ofList_of_ascending h)

theorem ascending_of_decode {j : Json} (h : decode j = .ok set) : set.Ascending := by
  obtain ⟨keys, -, rfl⟩ := Traversal.map_eq_ok_iff.mp h
  exact ascending_ofList keys

end KeySet

theorem Record.decode_objects (records : List Record) :
    sequence decode (.array (records.map .object)) = .ok records :=
  sequence_map fun _ _ => rfl

/-! ## Endpoints -/

namespace Endpoint

variable (e : Endpoint)

/-- The parts as they are written. -/
def fillings : List (Filling Endpoint) := [
  .of "node_label" .defaulted (optional string) (fun v e => { e with label := v })
    (.orNull (e.label.map .string)) (optional_string e.label),
  .of "node_key" .required string (fun v e => { e with nodeKey := v }) (.string e.nodeKey) rfl,
  .of "record_key" .required string (fun v e => { e with recordKey := v }) (.string e.recordKey) rfl]

theorem decode_toJson : shape.decode e.toJson = .ok e := by
  refine Shape.decode_ofEntries e.fillings ⟨by decide, by decide⟩ rfl ?_ rfl
  simp [fillings, Filling.of, Filling.Commute]

end Endpoint

/-! ## Node groups -/

namespace NodeGroup

variable {g : NodeGroup}

/-- The parts as they are written. -/
def fillings (g : NodeGroup) (h : g.excludeKeys.Ascending) : List (Filling NodeGroup) := [
  .of "labels" .required (sequence string) (fun v g => { g with labels := v }) (.strings g.labels)
    (sequence_strings g.labels),
  .of "key" .required string (fun v g => { g with key := v }) (.string g.key) rfl,
  .of "records" .required (sequence Record.decode) (fun v g => { g with records := v })
    (.array (g.records.map .object)) (Record.decode_objects g.records),
  .of "exclude_keys" .defaulted KeySet.decode (fun v g => { g with excludeKeys := v })
    (.strings g.excludeKeys) (KeySet.decode_strings h),
  .of "dedupe" .defaulted bool (fun v g => { g with dedupe := v }) (.bool g.dedupe) rfl]

theorem decode_toJson (h : g.excludeKeys.Ascending) : shape.decode g.toJson = .ok g := by
  refine Shape.decode_ofEntries (g.fillings h) ⟨by decide, by decide⟩ rfl ?_ rfl
  simp [fillings, Filling.of, Filling.Commute]

theorem ascending_of_decode {j : Json} (h : shape.decode j = .ok g) : g.excludeKeys.Ascending := by
  refine Shape.decode_preserves (P := fun g => g.excludeKeys.Ascending) .nil ?_ h
  simp only [shape, List.forall_mem_cons]
  exact ⟨Part.keeps_of fun _ _ _ _ h => h, Part.keeps_of fun _ _ _ _ h => h,
    Part.keeps_of fun _ _ _ _ h => h, Part.keeps_of fun _ _ _ h _ => KeySet.ascending_of_decode h,
    Part.keeps_of fun _ _ _ _ h => h, nofun⟩

end NodeGroup

/-! ## Relationship groups -/

namespace RelationshipGroup

variable {g : RelationshipGroup}

/-- The parts as they are written. -/
def fillings (g : RelationshipGroup) (h : g.excludeKeys.Ascending) : List (Filling RelationshipGroup) := [
  .of "type" .required string (fun v g => { g with type := v }) (.string g.type) rfl,
  (Filling.of "from_node" .required Endpoint.shape.decode (fun v g => { g with source := v })
    g.source.toJson g.source.decode_toJson).spelled ["from", "from_node"],
  (Filling.of "to_node" .required Endpoint.shape.decode (fun v g => { g with target := v })
    g.target.toJson g.target.decode_toJson).spelled ["to", "to_node"],
  .of "records" .required (sequence Record.decode) (fun v g => { g with records := v })
    (.array (g.records.map .object)) (Record.decode_objects g.records),
  .of "exclude_keys" .defaulted KeySet.decode (fun v g => { g with excludeKeys := v })
    (.strings g.excludeKeys) (KeySet.decode_strings h),
  .of "auto_exclude_keys" .defaulted bool (fun v g => { g with autoExcludeKeys := v })
    (.bool g.autoExcludeKeys) rfl,
  .of "dedupe" .defaulted bool (fun v g => { g with dedupe := v }) (.bool g.dedupe) rfl]

theorem decode_toJson (h : g.excludeKeys.Ascending) : shape.decode g.toJson = .ok g := by
  refine Shape.decode_ofEntries (g.fillings h) ⟨by decide, by decide⟩ rfl ?_ ?_
  · simp [fillings, Filling.of, Filling.spelled, Filling.Commute]
  · simp [fillings, Filling.of, Filling.spelled, Filling.fillAll]

theorem ascending_of_decode {j : Json} (h : shape.decode j = .ok g) : g.excludeKeys.Ascending := by
  refine Shape.decode_preserves (P := fun g => g.excludeKeys.Ascending) .nil ?_ h
  simp only [shape, List.forall_mem_cons]
  exact ⟨Part.keeps_of fun _ _ _ _ h => h, Part.keeps_of fun _ _ _ _ h => h,
    Part.keeps_of fun _ _ _ _ h => h, Part.keeps_of fun _ _ _ _ h => h,
    Part.keeps_of fun _ _ _ h _ => KeySet.ascending_of_decode h, Part.keeps_of fun _ _ _ _ h => h,
    Part.keeps_of fun _ _ _ _ h => h, nofun⟩

end RelationshipGroup

/-! ## Specifications -/

namespace Specification

variable {s : Specification}

/-- The sets of keys in a specification ascend, as sets do. -/
structure Ordered (s : Specification) : Prop where
  nodes : ∀ g ∈ s.nodes, g.excludeKeys.Ascending
  relationships : ∀ g ∈ s.relationships, g.excludeKeys.Ascending

/-- The parts as they are written. -/
def fillings (s : Specification) (h : s.Ordered) : List (Filling Specification) := [
  .of "nodes" .defaulted (sequence NodeGroup.shape.decode) (fun v s => { s with nodes := v })
    (.array (s.nodes.map NodeGroup.toJson))
    (sequence_map fun g hg => NodeGroup.decode_toJson (h.nodes g hg)),
  .of "relationships" .defaulted (sequence RelationshipGroup.shape.decode)
    (fun v s => { s with relationships := v }) (.array (s.relationships.map RelationshipGroup.toJson))
    (sequence_map fun g hg => RelationshipGroup.decode_toJson (h.relationships g hg))]

theorem decode_toJson (h : s.Ordered) : shape.decode s.toJson = .ok s := by
  refine Shape.decode_ofEntries (s.fillings h) ⟨by decide, by decide⟩ rfl ?_ rfl
  simp [fillings, Filling.of, Filling.Commute]

theorem ordered_of_decode {j : Json} (h : shape.decode j = .ok s) : s.Ordered := by
  refine Shape.decode_preserves ⟨nofun, nofun⟩ ?_ h
  simp only [shape, List.forall_mem_cons]
  refine ⟨Part.keeps_of fun _ _ _ h hs => ⟨?_, hs.relationships⟩,
    Part.keeps_of fun _ _ _ h hs => ⟨hs.nodes, ?_⟩, nofun⟩
  · exact forall_of_sequence (fun _ _ => NodeGroup.ascending_of_decode) h
  · exact forall_of_sequence (fun _ _ => RelationshipGroup.ascending_of_decode) h

/-- The JSON of a specification stands for it, and has its faults. -/
theorem ofJson_toJson_of_ordered (h : s.Ordered) : ofJson s.toJson = s.validate.map fun _ => s := by
  rw [ofJson, decode_toJson h]

theorem decode_of_ofJson {j : Json} (h : ofJson j = .ok s) :
    shape.decode j = .ok s ∧ s.validate = .ok () := by
  rw [ofJson] at h
  split at h
  · cases h
  · rename_i hdecode
    obtain ⟨⟨⟩, hvalidate, rfl⟩ := Traversal.map_eq_ok_iff.mp h
    exact ⟨hdecode, hvalidate⟩

/-- Decoding undoes encoding. A specification that passes the check is what its own JSON stands for; and
whatever a payload looks like that stands for one, the specification passes the check and is what its own
JSON stands for. -/
theorem ofJson_toJson :
    (∀ s : Specification, s.Ordered → s.validate = .ok () → ofJson s.toJson = .ok s) ∧
    (∀ (j : Json) (s : Specification), ofJson j = .ok s →
      s.Ordered ∧ s.validate = .ok () ∧ ofJson s.toJson = .ok s) := by
  have hround (s : Specification) (hordered : s.Ordered) (hvalidate : s.validate = .ok ()) :
      ofJson s.toJson = .ok s := by
    rw [ofJson_toJson_of_ordered hordered, hvalidate]
    rfl
  refine ⟨hround, fun j s h => ?_⟩
  obtain ⟨hdecode, hvalidate⟩ := decode_of_ofJson h
  have hordered := ordered_of_decode hdecode
  exact ⟨hordered, hvalidate, hround s hordered hvalidate⟩

/-- A payload in shorthand: a node group and an endpoint as arrays, ends under their short names, keys in
no order, and what has a default left out. -/
def shorthand : Json := .object [
  ("relationships", .array [.object [
    ("exclude_keys", .strings ["since", "by", "since"]),
    ("from", .array [.string "Person", .string "id", .string "a"]),
    ("records", .array [.object [("a", .nat 1), ("b", .object [("id", .null)])]]),
    ("to", .object [("node_key", .string "id"), ("record_key", .string "b.id")]),
    ("type", .string "KNOWS")]]),
  ("nodes", .array [.array [.strings ["Person"], .string "id", .array [.object [("id", .nat 1)]]]])]

/-- What the shorthand stands for. -/
def spelledOut : Specification where
  nodes := [⟨["Person"], "id", [[("id", .nat 1)]], [], true⟩]
  relationships := [⟨"KNOWS", ⟨some "Person", "id", "a"⟩, ⟨none, "id", "b.id"⟩,
    [[("a", .nat 1), ("b", .object [("id", .null)])]], ["by", "since"], true, true⟩]

theorem ofJson_toJson_shorthand :
    ofJson shorthand = .ok spelledOut ∧ shorthand ≠ spelledOut.toJson ∧
      ofJson spelledOut.toJson = .ok spelledOut := by
  have h : ofJson shorthand = .ok spelledOut := by rfl
  obtain ⟨hordered, hvalidate, -⟩ := ofJson_toJson.2 shorthand spelledOut h
  exact ⟨h, by decide +kernel, ofJson_toJson.1 spelledOut hordered hvalidate⟩

end Specification
end GraphLoad
