import GraphLoad.Proofs.Json.Outline
import GraphLoad.Proofs.Specification.Round
import GraphLoad.Proofs.Traversal

/-!
# The outline of a group

Expansion sees no more of a record than its outline: `expand_outline` says that a group and its
outline are expanded alike, with the same error if there is one.
-/

namespace GraphLoad

/-! ## Records -/

/-- What a record holds where a list is expected, in outline. -/
def Held.outline : Held → Held
  | nothing => nothing
  | list items => list (items.map Json.outline)
  | other => other

namespace Record

variable (r : Record) (path key : String) (item : Json)

theorem endpointValue?_outline :
    endpointValue? (Fields.outline r) key = (r.endpointValue? key).map Json.outline := by
  have hnull : (fun v : Json => !v.isNull) ∘ Json.outline = fun v => !v.isNull := by
    funext v
    exact congrArg _ (Json.isNull_outline v)
  have hscalar : Json.isScalar ∘ Json.outline = Json.isScalar :=
    funext Json.isScalar_outline
  rw [endpointValue?_eq, endpointValue?_eq, scalarAt?, scalarAt?, Fields.get?_mapValues,
    ← Json.outline_object, Path.walk_outline, Option.filter_map, hnull, ← Option.map_or,
    Option.filter_map, hscalar]

theorem heldAt_outline : heldAt (Fields.outline r) path = (r.heldAt path).outline := by
  have hnull : (fun v : Json => !v.isNull) ∘ Json.outline = fun v => !v.isNull := by
    funext v
    exact congrArg _ (Json.isNull_outline v)
  rw [heldAt, heldAt, Path.resolveIn_eq, Path.resolveIn_eq, ← Json.outline_object,
    Path.walk_outline, Path.present, Path.present, Option.filter_map, hnull]
  cases (Path.walk (Path.segments path) (.object r)).filter (!·.isNull) with
  | none => rfl
  | some v =>
    cases v with
    | null | bool | number => rfl
    | string s => rcases Json.outline_string s with h | h <;> rw [Option.map_some, h] <;> rfl
    | array items =>
      rw [Option.map_some, Json.outline_array]
      rfl
    | object fields =>
      rw [Option.map_some, Json.outline_object]
      rfl

theorem carried_outline :
    carried (Fields.outline r) key = (r.carried key).map fun c => (c.1, c.2.outline) := by
  rw [carried, carried, endpointValue?_outline]
  cases r.endpointValue? key with
  | some v => rfl
  | none =>
    rw [Option.map_none]
    dsimp only
    rw [Fields.get?_mapValues, Option.map_map, Option.map_map]
    rfl

theorem carry_outline (c : Option (String × Json)) :
    carry item.outline (c.map fun c => (c.1, c.2.outline)) = (carry item c).outline := by
  cases c with
  | none => rfl
  | some c => exact Path.put_outline (Path.segments c.1) c.2 item

theorem ofElement?_outline :
    ofElement? item.outline = (ofElement? item).map Fields.outline := by
  cases item with
  | null | bool | number => rfl
  | string s => rcases Json.outline_string s with h | h <;> rw [h] <;> rfl
  | array items =>
    rw [Json.outline_array]
    rfl
  | object fields =>
    rw [Json.outline_object]
    rfl

end Record

/-! ## Groups -/

/-- The group with the outlines of its records. -/
def NodeGroup.outline (g : NodeGroup) : NodeGroup :=
  { g with records := g.records.map Fields.outline }

/-- The group with the outlines of its records. -/
def RelationshipGroup.outline (g : RelationshipGroup) : RelationshipGroup :=
  { g with records := g.records.map Fields.outline }

namespace RelationshipGroup

variable (g : RelationshipGroup) (p : ListPlace) (r : Record)

@[simp]
theorem records_outline : g.outline.records = g.records.map Fields.outline := rfl

@[simp]
theorem endpoint_outline (side : Side) : g.outline.endpoint side = g.endpoint side := by
  cases side <;> rfl

theorem listOn?_outline (side : Side) :
    g.outline.listOn? (Fields.outline r) side = g.listOn? r side := by
  rw [listOn?, listOn?, endpoint_outline, ← Json.outline_object, Path.firstList_outline]

theorem nextList?_outline : g.outline.nextList? = g.nextList? := by
  rw [nextList?, nextList?, records_outline]
  cases g.records with
  | nil => rfl
  | cons first rest =>
    rw [List.map_cons]
    dsimp only
    rw [listOn?_outline, listOn?_outline]

theorem split_outline (index : Nat) :
    g.outline.split p (Fields.outline r) index =
      (g.split p r index).map (List.map Json.outline) := by
  rw [split, split, Record.heldAt_outline, endpoint_outline, Record.carried_outline]
  cases r.heldAt p.path with
  | nothing => rfl
  | other => rfl
  | list items =>
    rw [Held.outline]
    dsimp only
    rw [Except.map, List.map_map, List.map_map]
    congr 2
    funext item
    exact Record.carry_outline item _

theorem splitAll_outline :
    g.outline.splitAll p = (g.splitAll p).map (List.map Fields.outline) := by
  have hsplit : ((g.records.map Fields.outline).zipIdx.mapM fun x => g.outline.split p x.1 x.2) =
      (g.records.zipIdx.mapM fun x => g.split p x.1 x.2).map (List.map (List.map Json.outline)) := by
    rw [List.zipIdx_map, List.mapM_map, ← Traversal.mapM_map_result]
    exact Traversal.mapM_congr fun x _ => split_outline g p x.1 x.2
  have hrecords : Record.ofElement? ∘ Json.outline =
      fun item => (Record.ofElement? item).map Fields.outline :=
    funext Record.ofElement?_outline
  rw [splitAll_eq, splitAll_eq, records_outline, hsplit]
  cases g.records.zipIdx.mapM fun x => g.split p x.1 x.2 with
  | error e => rfl
  | ok elements =>
    simp only [Except.map]
    rw [← List.map_flatten, List.filterMap_map, hrecords, List.map_filterMap]

theorem expandAt_outline : g.outline.expandAt p = (g.expandAt p).map outline := by
  rw [expandAt, expandAt, endpoint_outline, splitAll_outline]
  split
  · rfl
  · cases g.splitAll p with
    | error e => rfl
    | ok records => cases p.side <;> rfl

/-- Expansion branches on the outlines of the records alone. -/
theorem expand_outline : g.outline.expand = g.expand.map outline := by
  induction g using expand.induct with
  | case1 g hnone =>
    rw [expand_of_nextList?_eq_none hnone,
      expand_of_nextList?_eq_none (g.nextList?_outline.trans hnone)]
    rfl
  | case2 g p hnext e he =>
    have hoe : g.outline.expandAt p = .error e := by rw [expandAt_outline, he]; rfl
    rw [expand_of_expandAt_eq_error hnext he,
      expand_of_expandAt_eq_error (g.nextList?_outline.trans hnext) hoe]
    rfl
  | case3 g p hnext g' he ih =>
    have hog : g.outline.expandAt p = .ok g'.outline := by rw [expandAt_outline, he]; rfl
    rw [expand_of_expandAt hnext he, expand_of_expandAt (g.nextList?_outline.trans hnext) hog, ih]

end RelationshipGroup
end GraphLoad
