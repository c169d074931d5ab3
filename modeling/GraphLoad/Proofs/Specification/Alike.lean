import GraphLoad.Proofs.Cypher.Outline
import GraphLoad.Specification.Compilation

/-!
# Specifications of one shape

`compile_alike`: specifications that differ in the values of their records only, with records of one
shape, are compiled to the same texts and names, or fail with the same error. What they are compiled
to is, but for the values that are bound, what their outline is compiled to (`compile_outline`).
-/

namespace GraphLoad

open List (Forall₂)

/-- The groups differ in their records only, which are alike one by one, and keep repeated ones. -/
def NodeGroup.Alike (g h : NodeGroup) : Prop :=
  g.dedupe = false ∧ { g with records := h.records } = h ∧
    Forall₂ (fun r t => Json.Alike (.object r) (.object t)) g.records h.records

/-- The groups differ in their records only, which are alike one by one, and keep repeated ones. -/
def RelationshipGroup.Alike (g h : RelationshipGroup) : Prop :=
  g.dedupe = false ∧ { g with records := h.records } = h ∧
    Forall₂ (fun r t => Json.Alike (.object r) (.object t)) g.records h.records

instance (g h : NodeGroup) : Decidable (g.Alike h) :=
  inferInstanceAs (Decidable (_ ∧ _ ∧ _))

instance (g h : RelationshipGroup) : Decidable (g.Alike h) :=
  inferInstanceAs (Decidable (_ ∧ _ ∧ _))

/-- The groups are alike one by one. -/
structure Specification.Alike (s t : Specification) : Prop where
  nodes : Forall₂ NodeGroup.Alike s.nodes t.nodes
  relationships : Forall₂ RelationshipGroup.Alike s.relationships t.relationships

/-- The statements differ in the bound values only. -/
structure Statement.Alike (s t : Statement) : Prop where
  text : s.text = t.text
  names : s.parameters.keys = t.parameters.keys
  propertyBindings : s.propertyBindings = t.propertyBindings

theorem Statement.alike_of_emptied_eq {s t : Statement} (h : s.emptied = t.emptied) : s.Alike t := by
  obtain ⟨htext, hparameters, hbindings⟩ := Statement.mk.inj h
  refine ⟨htext, ?_, hbindings⟩
  rw [← Fields.keys_emptied, hparameters, Fields.keys_emptied]

private theorem map_eq_map_of_forall₂ {α β : Type} {R : α → α → Prop} {f : α → β} {a b : List α}
    (hf : ∀ x y, R x y → f x = f y) (h : Forall₂ R a b) : a.map f = b.map f := by
  induction h with
  | nil => rfl
  | cons hxy _ ih => rw [List.map_cons, List.map_cons, hf _ _ hxy, ih]

/-! ## Slices -/

namespace Record

theorem map_outline_eq {a b : List Record}
    (h : Forall₂ (fun r t => Json.Alike (.object r) (.object t)) a b) :
    a.map Fields.outline = b.map Fields.outline := by
  refine map_eq_map_of_forall₂ (fun r t hrt => ?_) h
  have hobject := hrt.outline_eq
  rwa [Json.outline_object, Json.outline_object, Json.object.injEq] at hobject

theorem slices_map (f : Record → Record) (size : Nat) (records : List Record) :
    slices size (records.map f) = (slices size records).map (List.map f) := by
  fun_induction slices size records with
  | case1 => rw [List.map_nil, slices, List.map_nil]
  | case2 r rs ih =>
    rw [List.map_cons, slices, ← List.map_drop, ih, ← List.map_take, List.map_cons, List.map_cons]

theorem chunks_map (f : Record → Record) (records : List Record) (size : Nat) :
    chunks (records.map f) size = (chunks records size).map (List.map (List.map f)) := by
  rw [chunks, chunks, slices_map]
  split <;> rfl

end Record

/-! ## Groups -/

private theorem emptied_statements {B : Type} {statement? : B → Option Statement} {outline : B → B}
    {batches : Except CompileError (List B)} (h : ∀ bs, batches = .ok bs → ∀ b ∈ bs,
      (statement? (outline b)).map Statement.emptied = (statement? b).map Statement.emptied) :
    ((batches.map (List.map outline)).map (List.filterMap statement?)).map
        (List.map Statement.emptied) =
      (batches.map (List.filterMap statement?)).map (List.map Statement.emptied) := by
  cases batches with
  | error e => rfl
  | ok bs =>
    simp only [Except.map]
    rw [List.filterMap_map, List.map_filterMap, List.map_filterMap]
    exact congrArg Except.ok (List.filterMap_congr (h bs rfl))

namespace NodeGroup

variable {g g' : NodeGroup} {m : Nat}

theorem Alike.symm (h : g.Alike g') : g'.Alike g := by
  obtain ⟨hdedupe, heq, hrecords⟩ := h
  refine ⟨heq ▸ hdedupe, ?_, hrecords.flip.imp fun _ _ => Json.Alike.symm⟩
  rw [← heq]

theorem Alike.outline_eq (h : g.Alike g') : g.outline = g'.outline := by
  obtain ⟨-, heq, hrecords⟩ := h
  rw [outline, Record.map_outline_eq hrecords, ← heq]
  rfl

theorem batches_outline (g : NodeGroup) (m : Nat) :
    g.outline.batches m = (g.batches m).map (List.map NodeBatch.outline) := by
  rw [batches, batches, outline, Record.chunks_map]
  cases Record.chunks g.records m with
  | error e => rfl
  | ok slices =>
    simp only [Except.map, List.zipIdx_map, List.map_map]
    rfl

theorem dedupe_of_mem_batches {bs : List NodeBatch} (h : g.batches m = .ok bs) {b : NodeBatch}
    (hb : b ∈ bs) : b.dedupe = g.dedupe := by
  obtain ⟨slices, -, rfl⟩ := Traversal.map_eq_ok_iff.mp h
  obtain ⟨x, -, rfl⟩ := List.mem_map.mp hb
  rfl

theorem emptied_statements_outline (h : g.dedupe = false) (m : Nat) :
    (g.outline.statements m).map (List.map Statement.emptied) =
      (g.statements m).map (List.map Statement.emptied) := by
  rw [statements, statements, batches_outline]
  exact emptied_statements fun bs hbs b hb =>
    b.emptied_statement?_outline ((dedupe_of_mem_batches hbs hb).trans h)

end NodeGroup

namespace RelationshipGroup

variable {g g' : RelationshipGroup} {m : Nat}

theorem Alike.symm (h : g.Alike g') : g'.Alike g := by
  obtain ⟨hdedupe, heq, hrecords⟩ := h
  refine ⟨heq ▸ hdedupe, ?_, hrecords.flip.imp fun _ _ => Json.Alike.symm⟩
  rw [← heq]

theorem Alike.outline_eq (h : g.Alike g') : g.outline = g'.outline := by
  obtain ⟨-, heq, hrecords⟩ := h
  rw [outline, Record.map_outline_eq hrecords, ← heq]
  rfl

theorem batches_outline (g : RelationshipGroup) (m : Nat) :
    g.outline.batches m = (g.batches m).map (List.map RelationshipBatch.outline) := by
  rw [batches, batches, expand_outline]
  cases g.expand with
  | error e => rfl
  | ok g' =>
    simp only [Except.map]
    rw [records_outline, Record.chunks_map]
    cases Record.chunks g'.records m with
    | error e => rfl
    | ok slices =>
      simp only [Except.map, List.zipIdx_map, List.map_map]
      rfl

theorem dedupe_of_mem_batches {bs : List RelationshipBatch} (h : g.batches m = .ok bs)
    {b : RelationshipBatch} (hb : b ∈ bs) : b.dedupe = g.dedupe := by
  rw [batches] at h
  cases he : g.expand with
  | error e =>
    rw [he] at h
    cases h
  | ok g' =>
    rw [he] at h
    obtain ⟨slices, -, rfl⟩ := Traversal.map_eq_ok_iff.mp h
    obtain ⟨x, -, rfl⟩ := List.mem_map.mp hb
    exact dedupe_expand he

theorem emptied_statements_outline (h : g.dedupe = false) (m : Nat) :
    (g.outline.statements m).map (List.map Statement.emptied) =
      (g.statements m).map (List.map Statement.emptied) := by
  rw [statements, statements, batches_outline]
  exact emptied_statements fun bs hbs b hb =>
    b.emptied_statement?_outline ((dedupe_of_mem_batches hbs hb).trans h)

end RelationshipGroup

namespace Group

/-- The group with the outlines of its records. -/
def outline : Group → Group
  | nodes g => nodes g.outline
  | relationships g => relationships g.outline

/-- Whether the group drops repeated records. -/
def dedupe : Group → Bool
  | nodes g => g.dedupe
  | relationships g => g.dedupe

theorem emptied_statements_outline {g : Group} (h : g.dedupe = false) (m : Nat) :
    (statements m g.outline).map (List.map Statement.emptied) =
      (statements m g).map (List.map Statement.emptied) := by
  cases g with
  | nodes g => exact NodeGroup.emptied_statements_outline h m
  | relationships g => exact RelationshipGroup.emptied_statements_outline h m

end Group

/-! ## Specifications -/

namespace Specification

variable {s t : Specification}

/-- The specification with the outlines of all records. -/
def outline (s : Specification) : Specification where
  nodes := s.nodes.map NodeGroup.outline
  relationships := s.relationships.map RelationshipGroup.outline

theorem groups_outline (s : Specification) : s.outline.groups = s.groups.map Group.outline := by
  rw [groups, groups, outline, List.map_append, List.map_map, List.map_map, List.map_map,
    List.map_map]
  rfl

/-- What a specification is compiled to is, but for the bound values, what its outline is compiled
to. -/
theorem compile_outline (h : ∀ g ∈ s.groups, g.dedupe = false) (m : Nat) :
    (s.outline.compile m).map (List.map Statement.emptied) =
      (s.compile m).map (List.map Statement.emptied) := by
  have hgroups : (s.outline.groups.mapM (Group.statements m)).map
      (List.map (List.map Statement.emptied)) =
        (s.groups.mapM (Group.statements m)).map (List.map (List.map Statement.emptied)) := by
    rw [groups_outline, List.mapM_map, ← Traversal.mapM_map_result, ← Traversal.mapM_map_result]
    exact Traversal.mapM_congr fun g hg => Group.emptied_statements_outline (h g hg) m
  have hflatten : ∀ x : Except CompileError (List (List Statement)),
      (x.map List.flatten).map (List.map Statement.emptied) =
        (x.map (List.map (List.map Statement.emptied))).map List.flatten := by
    intro x
    cases x with
    | error e => rfl
    | ok sts => exact congrArg Except.ok List.map_flatten
  rw [compile, compile, hflatten, hflatten, hgroups]

theorem Alike.symm (h : s.Alike t) : t.Alike s where
  nodes := h.nodes.flip.imp fun _ _ => NodeGroup.Alike.symm
  relationships := h.relationships.flip.imp fun _ _ => RelationshipGroup.Alike.symm

theorem Alike.outline_eq (h : s.Alike t) : s.outline = t.outline := by
  have hnodes : s.nodes.map NodeGroup.outline = t.nodes.map NodeGroup.outline :=
    map_eq_map_of_forall₂ (fun _ _ => NodeGroup.Alike.outline_eq) h.nodes
  have hrelationships : s.relationships.map RelationshipGroup.outline =
      t.relationships.map RelationshipGroup.outline :=
    map_eq_map_of_forall₂ (fun _ _ => RelationshipGroup.Alike.outline_eq) h.relationships
  rw [outline, outline, hnodes, hrelationships]

theorem Alike.dedupe_eq_false (h : s.Alike t) : ∀ g ∈ s.groups, g.dedupe = false := by
  intro g hg
  rcases List.mem_append.mp hg with hg | hg
  · obtain ⟨n, hn, rfl⟩ := List.mem_map.mp hg
    exact ((List.forall₂_and_left _ _).mp h.nodes).1 n hn
  · obtain ⟨r, hr, rfl⟩ := List.mem_map.mp hg
    exact ((List.forall₂_and_left _ _).mp h.relationships).1 r hr

/-- The values in the records have no influence on the texts: both compilations fail with one error, or
they give statements that differ in the bound values only. -/
theorem compile_alike (h : s.Alike t) (m : Nat) :
    (∃ e, s.compile m = .error e ∧ t.compile m = .error e) ∨
      ∃ ss ts, s.compile m = .ok ss ∧ t.compile m = .ok ts ∧ Forall₂ Statement.Alike ss ts := by
  have hemptied : (s.compile m).map (List.map Statement.emptied) =
      (t.compile m).map (List.map Statement.emptied) := by
    rw [← compile_outline h.dedupe_eq_false m, ← compile_outline h.symm.dedupe_eq_false m,
      h.outline_eq]
  cases hs : s.compile m with
  | error e =>
    cases ht : t.compile m with
    | error e' =>
      rw [hs, ht] at hemptied
      exact .inl ⟨e, rfl, congrArg _ (Except.error.inj hemptied).symm⟩
    | ok ts =>
      rw [hs, ht] at hemptied
      cases hemptied
  | ok ss =>
    cases ht : t.compile m with
    | error e' =>
      rw [hs, ht] at hemptied
      cases hemptied
    | ok ts =>
      rw [hs, ht] at hemptied
      have hmap := Except.ok.inj hemptied
      rw [← List.forall₂_eq_eq_eq, List.forall₂_map_left_iff, List.forall₂_map_right_iff] at hmap
      exact .inr ⟨ss, ts, rfl, rfl, hmap.imp fun _ _ => Statement.alike_of_emptied_eq⟩

/-- Someone who knows two others, one of whom has no name. -/
def knows (source target : String) : Specification where
  nodes := [⟨["Person"], "uid", [[("name", .string target), ("uid", .string source)]], [], false⟩]
  relationships := [⟨"KNOWS", ⟨none, "uid", "from"⟩, ⟨none, "uid", "to.uid"⟩,
    [[("from", .string source), ("to", .array [.object [("uid", .string target)],
      .object [("uid", .string "")]])]], [], true, false⟩]

/-- A value that looks like the end of a text is a value all the same. -/
theorem compile_alike_quotes :
    (knows "a" "b").Alike (knows "it's" "\"\x7d) DETACH DELETE n //") ∧
      ∃ ss ts, (knows "a" "b").compile 500 = .ok ss ∧
        (knows "it's" "\"\x7d) DETACH DELETE n //").compile 500 = .ok ts ∧
        Forall₂ Statement.Alike ss ts := by
  have h : (knows "a" "b").Alike (knows "it's" "\"\x7d) DETACH DELETE n //") :=
    ⟨by decide +kernel, by decide +kernel⟩
  refine ⟨h, (compile_alike h 500).resolve_left ?_⟩
  rintro ⟨e, he, -⟩
  have hok : ((knows "a" "b").compile 500).isOk := by decide +kernel
  rw [he] at hok
  cases hok

end Specification
end GraphLoad
