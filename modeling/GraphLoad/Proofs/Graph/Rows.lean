import GraphLoad.Proofs.Graph.Effect

/-!
# Rows that are written again

Rows that are merged a second time leave the graph as it is (`Write.Fits.foldlM_of_merges`), and rows
that are created a second time add the same once more (`Write.Fits.foldlM_of_creates`). No write takes
anything away (`Graph.grows_run?`).
-/

namespace GraphLoad

namespace Graph

/-- The graph with further nodes and relationships at the ends of its lists. -/
def add (g added : Graph) : Graph where
  nodes := g.nodes ++ added.nodes
  relationships := g.relationships ++ added.relationships

/-- The other graph has as many nodes and relationships, or more. -/
def Grows (g g' : Graph) : Prop :=
  g.nodes.length ≤ g'.nodes.length ∧ g.relationships.length ≤ g'.relationships.length

theorem Grows.refl (g : Graph) : g.Grows g :=
  ⟨Nat.le_refl _, Nat.le_refl _⟩

theorem Grows.trans {g g' g'' : Graph} (h : g.Grows g') (h' : g'.Grows g'') : g.Grows g'' :=
  ⟨Nat.le_trans h.1 h'.1, Nat.le_trans h.2 h'.2⟩

end Graph

/-! ## What is there may be written again -/

namespace Graph

theorem Node.properties_foldl_set (labels : List String) (bs : List Fields) (n : Node) :
    (bs.foldl (fun n b => n.set labels b) n).properties =
      Fields.insertAll n.properties bs.flatten := by
  induction bs generalizing n with
  | nil => rfl
  | cons b bs ih =>
    rw [List.foldl_cons, ih, List.flatten_cons, Fields.insertAll_append]
    rfl

theorem Node.labels_foldl_set_of_subset {labels : List String} {n : Node}
    (h : labels ⊆ n.labels) (bs : List Fields) :
    (bs.foldl (fun n b => n.set labels b) n).labels = n.labels := by
  induction bs generalizing n with
  | nil => rfl
  | cons b bs ih =>
    have hset : (n.set labels b).labels = n.labels := List.Subset.union_eq_right h
    rw [List.foldl_cons, ih (by rwa [hset]), hset]

theorem Node.foldl_set_twice (labels : List String) (bs : List Fields) (n : Node) :
    bs.foldl (fun n b => n.set labels b) (bs.foldl (fun n b => n.set labels b) n) =
      bs.foldl (fun n b => n.set labels b) n := by
  cases bs with
  | nil => rfl
  | cons b bs =>
    have hfirst : labels ⊆ (n.set labels b).labels := fun label hl =>
      List.mem_union_iff.mpr (.inl hl)
    have hsub : labels ⊆ ((b :: bs).foldl (fun n b => n.set labels b) n).labels := by
      rw [List.foldl_cons, labels_foldl_set_of_subset hfirst]
      exact hfirst
    refine Node.ext ?_ ?_
    · exact labels_foldl_set_of_subset hsub _
    · rw [properties_foldl_set, properties_foldl_set, Fields.insertAll_insertAll]

theorem Relationship.foldl_set (bs : List Fields) (r : Relationship) :
    bs.foldl (fun r b => r.set b) r = r.set bs.flatten := by
  induction bs generalizing r with
  | nil => rfl
  | cons b bs ih =>
    rw [List.foldl_cons, ih, List.flatten_cons, set, set, set, Fields.insertAll_append]

theorem Relationship.foldl_set_twice (bs : List Fields) (r : Relationship) :
    bs.foldl (fun r b => r.set b) (bs.foldl (fun r b => r.set b) r) =
      bs.foldl (fun r b => r.set b) r := by
  rw [foldl_set, foldl_set, set, set, Fields.insertAll_insertAll]

/-- The properties give no other value to the key than the one that the node is merged on. -/
theorem stable_merging {label key : String} {others : List String} {ws : List (Json × Fields)}
    (h : ∀ w ∈ ws, ∀ x, (key, x) ∈ w.2 → x = w.1) : (merging label key others).Stable ws where
  key_fresh v := by simp [merging, Pattern.value?, Fields.get?_cons]
  key_change w hw n hn := by
    obtain ⟨hlabel, hvalue⟩ : label ∈ n.labels ∧ Fields.get? n.properties key = some w.1 := by
      simpa [merging, Pattern.value?] using hn
    have hkept : Fields.get? (Fields.insertAll n.properties w.2) key = some w.1 := by
      rw [Fields.get?_insertAll]
      cases hx : Fields.get? w.2.reverse key with
      | none => rw [Option.none_or, hvalue]
      | some x => rw [h w hw x (List.mem_reverse.mp (Fields.mem_of_get? hx)), Option.some_or]
    simp [merging, Pattern.value?, Node.set, hlabel, hkept]
  again := Node.foldl_set_twice others

/-- A node that is found under a value has what the writes under the value assign last. -/
theorem get?_of_mem_run_merging {label key p : String} {others : List String}
    {ws : List (Json × Fields)} (h : ∀ w ∈ ws, ∀ x, (key, x) ∈ w.2 → x = w.1) {items : List Node}
    {v x : Json} (hx : Fields.get? ((ws.filter (·.1 = v)).flatMap Prod.snd).reverse p = some x) :
    ∀ n ∈ (merging label key others).run ws items,
      Pattern.value? ⟨some label, key⟩ n = some v → Fields.get? n.properties p = some x := by
  intro n hn hv
  have hstable : (merging label key others).Stable ws := stable_merging h
  obtain ⟨added, -, -, hrun⟩ := hstable.exists_run items
  rw [hrun] at hn
  obtain ⟨a, -, rfl⟩ := List.mem_map.mp hn
  have hkey : (merging label key others).key a = some v := (hstable.key_settle a).symm.trans hv
  have hwrites : (ws.filter fun w => (merging label key others).key a = some w.1) =
      ws.filter (·.1 = v) := by
    simp only [hkey, Option.some_inj, eq_comm]
  rw [hstable.settle_eq, hwrites]
  show Fields.get? (List.foldl (fun n b => Node.set others b n) a _).properties p = some x
  rw [Node.properties_foldl_set, Fields.get?_insertAll, ← List.flatMap_def, hx, Option.some_or]

theorem stable_relating (type : String) (ws : List ((Nat × Nat) × Fields)) :
    (relating type).Stable ws where
  key_fresh ends := by simp [relating]
  key_change w _ r hr := hr
  again := Relationship.foldl_set_twice

end Graph

/-! ## The writes of a list of rows -/

namespace Write

open GraphLoad.Graph

/-- The rows are such as the statements of a group list: they have as many values in front as the
write takes, and the properties for a merged node do not give another value to its key. -/
inductive Fits : Write → List (Row Json) → Prop
  | mergeNode {label key : String} {others : List String} (ws : List (Json × Fields)) :
    (∀ w ∈ ws, ∀ x, (key, x) ∈ w.2 → x = w.1) →
      Fits (mergeNode label key others) (ws.map fun w => ⟨[w.1], w.2⟩)
  | createNode {label : String} {others : List String} (ws : List (Json × Fields)) :
    Fits (createNode label others) (ws.map fun w => ⟨[w.1], w.2⟩)
  | mergeRelationship {source target : Pattern} {type : String} (ws : List ((Json × Json) × Fields)) :
    Fits (mergeRelationship source target type) (ws.map fun w => ⟨[w.1.1, w.1.2], w.2⟩)
  | createRelationship {source target : Pattern} {type : String}
      (ws : List ((Json × Json) × Fields)) :
    Fits (createRelationship source target type) (ws.map fun w => ⟨[w.1.1, w.1.2], w.2⟩)

theorem Fits.exists_of_mergeNode {label key : String} {others : List String}
    {rows : List (Row Json)} (h : (Write.mergeNode label key others).Fits rows) :
    ∃ ws : List (Json × Fields), rows = ws.map (fun w => ⟨[w.1], w.2⟩) ∧
      ∀ w ∈ ws, ∀ x, (key, x) ∈ w.2 → x = w.1 := by
  cases h with
  | mergeNode ws hws => exact ⟨ws, rfl, hws⟩

/-- Whether what is there is looked for. -/
def merges : Write → Bool
  | mergeNode .. | mergeRelationship .. => true
  | createNode .. | createRelationship .. => false

/-- The pairs of nodes that a row relates. -/
def pairs (g : Graph) (source target : Pattern) (row : Row Json) : List (Nat × Nat) :=
  match row.ends with
  | [v, w] => g.places source v ×ˢ g.places target w
  | _ => []

/-- What rows add to a graph when they are created: a node each, or a relationship for each pair of
nodes that they relate. -/
def Adds (w : Write) (g : Graph) (rows : List (Row Json)) (added : Graph) : Prop :=
  match w with
  | createNode .. => added.nodes.length = rows.length ∧ added.relationships = []
  | createRelationship source target _ =>
    added.nodes = [] ∧
      added.relationships.map (fun r => (r.source, r.target)) = rows.flatMap (pairs g source target)
  | _ => False

def relatedAll (g : Graph) (source target : Pattern) (ws : List ((Json × Json) × Fields)) :
    List ((Nat × Nat) × Fields) :=
  ws.flatMap fun w => related g source target w.1.1 w.1.2 w.2

theorem foldlM_mergeNode (label key : String) (others : List String) (ws : List (Json × Fields))
    (g : Graph) :
    (ws.map fun w => (⟨[w.1], w.2⟩ : Row Json)).foldlM (mergeNode label key others).run? g =
      some { g with nodes := (merging label key others).run ws g.nodes } := by
  induction ws generalizing g with
  | nil => rfl
  | cons w ws ih =>
    rw [List.map_cons, List.foldlM_cons]
    exact ih _

theorem foldlM_createNode (label : String) (others : List String) (ws : List (Json × Fields))
    (g : Graph) :
    (ws.map fun w => (⟨[w.1], w.2⟩ : Row Json)).foldlM (createNode label others).run? g =
      some (g.add ⟨ws.map fun w => Node.set others w.2 ⟨[label], []⟩, []⟩) := by
  induction ws generalizing g with
  | nil => simp [add]
  | cons w ws ih =>
    rw [List.map_cons, List.foldlM_cons]
    refine (ih _).trans ?_
    simp [add]

theorem foldlM_mergeRelationship (source target : Pattern) (type : String)
    (ws : List ((Json × Json) × Fields)) (g : Graph) :
    (ws.map fun w => (⟨[w.1.1, w.1.2], w.2⟩ : Row Json)).foldlM
        (mergeRelationship source target type).run? g =
      some { g with relationships :=
        (relating type).run (relatedAll g source target ws) g.relationships } := by
  induction ws generalizing g with
  | nil => rfl
  | cons w ws ih =>
    rw [List.map_cons, List.foldlM_cons, relatedAll, List.flatMap_cons, Upsert.run, List.foldl_append]
    exact ih _

theorem foldlM_createRelationship (source target : Pattern) (type : String)
    (ws : List ((Json × Json) × Fields)) (g : Graph) :
    (ws.map fun w => (⟨[w.1.1, w.1.2], w.2⟩ : Row Json)).foldlM
        (createRelationship source target type).run? g =
      some (g.add ⟨[], (relatedAll g source target ws).map fun (ends, properties) =>
        Relationship.set properties ⟨ends.1, ends.2, type, []⟩⟩) := by
  induction ws generalizing g with
  | nil => simp [add, relatedAll]
  | cons w ws ih =>
    rw [List.map_cons, List.foldlM_cons, relatedAll, List.flatMap_cons, List.map_append]
    refine (ih _).trans ?_
    simp [add, relatedAll, related, places]

variable {w : Write} {rows : List (Row Json)}

/-- Rows that are merged twice are merged once. -/
theorem Fits.foldlM_of_merges (h : w.Fits rows) (hw : w.merges) (g : Graph) :
    ∃ g', rows.foldlM w.run? g = some g' ∧ rows.foldlM w.run? g' = some g' := by
  cases h with
  | mergeNode ws hws =>
    refine ⟨_, foldlM_mergeNode _ _ _ ws g, ?_⟩
    rw [foldlM_mergeNode, (stable_merging hws).run_run]
  | mergeRelationship ws =>
    refine ⟨_, foldlM_mergeRelationship _ _ _ ws g, ?_⟩
    rw [foldlM_mergeRelationship]
    exact congrArg (fun relationships => some { g with relationships })
      ((stable_relating _ _).run_run g.relationships)
  | createNode | createRelationship => cases hw

/-- Rows that are created twice add the same twice. -/
theorem Fits.foldlM_of_creates (h : w.Fits rows) (hw : w.merges = false) (g : Graph) :
    ∃ added : Graph, rows.foldlM w.run? g = some (g.add added) ∧
      rows.foldlM w.run? (g.add added) = some ((g.add added).add added) ∧ w.Adds g rows added := by
  cases h with
  | createNode ws =>
    refine ⟨_, foldlM_createNode _ _ ws g, foldlM_createNode _ _ ws _, ?_, rfl⟩
    rw [List.length_map, List.length_map]
  | createRelationship ws =>
    refine ⟨_, foldlM_createRelationship _ _ _ ws g, ?_, rfl, ?_⟩
    · -- the pairs are the same, as no node was added
      rw [foldlM_createRelationship]
      simp [add, relatedAll, related, places]
    · simp [relatedAll, related, List.map_flatMap, List.flatMap_map, Function.comp_def, pairs,
        Relationship.set]
  | mergeNode | mergeRelationship => cases hw

end Write

/-! ## Nothing is taken away -/

namespace Graph

variable {g g' : Graph}

theorem grows_writeRow {w : Write} {row : Row Json} (h : w.run? g row = some g') : g.Grows g' := by
  unfold Write.run? at h
  split at h
  · obtain rfl := Option.some.inj h
    exact ⟨Upsert.length_le_write _ _ _, Nat.le_refl _⟩
  · obtain rfl := Option.some.inj h
    exact ⟨List.length_append ▸ Nat.le_add_right _ _, Nat.le_refl _⟩
  · obtain rfl := Option.some.inj h
    exact ⟨Nat.le_refl _, Upsert.length_le_run _ _ _⟩
  · obtain rfl := Option.some.inj h
    exact ⟨Nat.le_refl _, List.length_append ▸ Nat.le_add_right _ _⟩
  · cases h

private theorem grows_foldlM {α : Type} {step : Graph → α → Option Graph}
    (hstep : ∀ g a g', step g a = some g' → g.Grows g') {l : List α} :
    ∀ {g g' : Graph}, l.foldlM step g = some g' → g.Grows g' := by
  induction l with
  | nil =>
    intro g g' h
    rw [← Option.some.inj h]
    exact .refl g
  | cons a l ih =>
    intro g g' h
    rw [List.foldlM_cons] at h
    obtain ⟨next, hnext, hrest⟩ := Option.bind_eq_some_iff.mp h
    exact (hstep g a next hnext).trans (ih hrest)

theorem grows_runStatement {s : Statement} (h : s.run? g = some g') : g.Grows g' := by
  obtain ⟨reading, -, h⟩ := Option.bind_eq_some_iff.mp h
  obtain ⟨write, -, h⟩ := Option.bind_eq_some_iff.mp h
  exact grows_foldlM (fun _ _ _ => grows_writeRow) h

theorem grows_run? {statements : List Statement} (h : g.run? statements = some g') : g.Grows g' :=
  grows_foldlM (fun _ _ _ => grows_runStatement) h

/-- Where statements leave the graph as it is, none of them has added anything. -/
theorem length_of_run?_append {before after : List Statement}
    (h : g.run? (before ++ after) = some g) :
    ∃ g', g.run? before = some g' ∧ g'.nodes.length = g.nodes.length ∧
      g'.relationships.length = g.relationships.length := by
  rw [run?, List.foldlM_append] at h
  obtain ⟨g', hbefore, hafter⟩ := Option.bind_eq_some_iff.mp h
  have hgrown : g.Grows g' := grows_run? hbefore
  have hgrows : g'.Grows g := grows_run? hafter
  exact ⟨g', hbefore, Nat.le_antisymm hgrows.1 hgrown.1, Nat.le_antisymm hgrows.2 hgrown.2⟩

end Graph
end GraphLoad
