import GraphLoad.Cypher.NodeBatch
import GraphLoad.Proofs.Cypher.ElementReading
import GraphLoad.Proofs.Record.Property

/-!
# Statements of node batches

`reads_back_nodes`: the statement of a batch says what the records of the batch say, one row for each
record that has a key, and then creates or merges the nodes under its labels. Without such a record
there is no statement.
-/

namespace GraphLoad.NodeBatch

open Cypher

/-! ## What a batch says -/

/-- The records with a node to write: those with a value under the key that is not blank. -/
def usable (b : NodeBatch) : List Record :=
  (if b.dedupe then Record.distinct b.records else b.records).filter fun r =>
    (Fields.get? r b.key).any (!Property.isBlank ·)

/-- The name is excluded and not the key of a node that is created. -/
def Excluded (b : NodeBatch) (name : String) : Prop :=
  name ∈ b.excludeKeys ∧ (b.dedupe ∨ name ≠ b.key)

instance (b : NodeBatch) (name : String) : Decidable (b.Excluded name) :=
  inferInstanceAs (Decidable (_ ∧ _))

/-- The value of the key and the properties that a record gives. -/
def row (b : NodeBatch) (r : Record) : Row Json where
  ends := (Fields.get? r b.key).toList.map Property.bindable
  properties := r.filterMap fun (name, value) =>
    if b.Excluded name ∨ Property.isBlank value then none else some (name, Property.bindable value)

/-- What stands behind the list: the first label and, in a merge, the key, then the other labels. -/
def clauseLexemes (b : NodeBatch) (label : String) (others : List String) : List Lexeme :=
  plain " AS node_data\nUNWIND node_data AS node\n" ++
    ((if b.dedupe then
      plain "MERGE (n:" ++ .name label :: (plain " \x7b" ++ .name b.key :: plain ":node[0]\x7d)")
    else plain "CREATE (n:" ++ .name label :: plain ")") ++
    (plain "\nSET n += node[1]" ++ others.flatMap fun other => plain "\nSET n:" ++ [.name other]))

variable {b : NodeBatch} {label : String} {others : List String}

/-! ## The clauses -/

theorem chars_clauseLexemes :
    (b.clauseLexemes label others).flatMap Lexeme.chars =
      (" AS " ++ "node_data" ++ "\n" ++ b.clauses label others).toList := by
  have hopen : " AS node_data\nUNWIND node_data AS node\n" =
      " AS " ++ "node_data" ++ "\n" ++ "UNWIND node_data AS node\n" := by decide
  have hothers : (others.flatMap fun other => plain "\nSET n:" ++ [.name other]).flatMap
      Lexeme.chars = (String.join (others.map fun other => "\nSET n:" ++ quote other)).toList := by
    rw [String.toList_join, List.flatMap_assoc, List.flatMap_map]
    simp only [List.flatMap_append, flatMap_chars_plain, String.toList_append, List.flatMap_singleton,
      Lexeme.chars, quote, String.toList_ofList]
  rw [clauseLexemes, hopen]
  unfold clauses
  split <;>
    simp only [List.flatMap_append, List.flatMap_cons, flatMap_chars_plain, hothers, Lexeme.chars,
      quote, String.toList_append, String.toList_ofList, List.append_assoc]

private theorem spaced_others :
    Stops (others.flatMap fun other => plain "\nSET n:" ++ [.name other]) ∧
      Spaced (others.flatMap fun other => plain "\nSET n:" ++ [.name other]) := by
  induction others with
  | nil => exact ⟨.nil, .nil⟩
  | cons other others ih =>
    rw [List.flatMap_cons, List.append_assoc]
    exact ⟨.char rfl, .plain_append (by decide) (.name ih.1 ih.2)⟩

theorem spaced_clauseLexemes : Spaced (b.clauseLexemes label others) := by
  have hset : Spaced (plain "\nSET n += node[1]" ++
      others.flatMap fun other => plain "\nSET n:" ++ [.name other]) :=
    .plain_append (by decide) spaced_others.2
  refine .plain_append (by decide) ?_
  split
  · rw [List.append_assoc, List.cons_append, List.append_assoc, List.cons_append]
    refine .plain_append (by decide) (.name (.char rfl) ?_)
    exact .plain_append (by decide) (.name (.char rfl) (.plain_append (by decide) hset))
  · rw [List.append_assoc, List.cons_append]
    exact .plain_append (by decide) (.name (.char rfl) (.plain_append (by decide) hset))

theorem parameter_not_mem_clauseLexemes (p : String) :
    .parameter p ∉ b.clauseLexemes label others := by
  rw [clauseLexemes]
  split <;> simp [parameter_not_mem_plain]

/-! ## The elements -/

theorem properties_row (b : NodeBatch) (r : Record) :
    (b.row r).properties = Property.of b.excluded r := by
  rw [Property.of_eq_filterMap]
  show List.filterMap _ r = _
  congr 1
  funext ⟨name, value⟩
  have hname : name ∈ b.excluded ↔ b.Excluded name := by
    rw [excluded, Excluded]
    cases b.dedupe <;> simp
  simp [hname]

theorem row_of_element? (r : Record) (i : Nat) :
    (b.element? r i).map Element.row =
      (if (Fields.get? r b.key).any (!Property.isBlank ·) then some r else none).map b.row := by
  have hproperties := properties_row b r
  unfold element? keyValue?
  cases hkey : Fields.get? r b.key with
  | none => rfl
  | some v =>
    cases hv : Property.isBlank v with
    | true => simp [hv]
    | false =>
      rw [Option.filter, if_pos (by simp [hv]), Option.any_some, if_pos (by simp [hv])]
      simp [Element.row, row, hkey, ← hproperties]

theorem map_row_elements (b : NodeBatch) : b.elements.map Element.row = b.usable.map b.row := by
  rw [elements, Element.map_row_numbered row_of_element?, ← List.map_filterMap, usable, candidates,
    ← List.filterMap_eq_filter]
  rfl

theorem listed_elements (hid : b.id.toList.all Char.isAlphanum)
    (hrecords : ∀ r ∈ b.records, r.keys.Nodup) : Element.Listed b.elements := by
  have hnodup : ∀ r ∈ b.candidates, r.keys.Nodup := fun r hr =>
    hrecords r (Record.mem_of_mem_candidates hr)
  have made : ∀ r i e, b.element? r i = some e → ∃ v, Fields.get? r b.key = some v ∧
      e = ⟨b.id ++ toString i, [(b.key, Property.bindable v)], Property.of b.excluded r⟩ := by
    intro r i e he
    obtain ⟨v, hv, rfl⟩ := Option.map_eq_some_iff.mp he
    exact ⟨v, (Option.filter_eq_some_iff.mp hv).1, rfl⟩
  refine .of_numbered hid ?_ b.candidates ?_ ?_ ?_
  · intro r i e he
    obtain ⟨v, -, rfl⟩ := made r i e he
    rfl
  · intro r _ i e he
    obtain ⟨v, -, rfl⟩ := made r i e he
    exact List.cons_ne_nil _ _
  · intro r hr i e he
    obtain ⟨v, -, rfl⟩ := made r i e he
    exact Property.nodup_keys_of (hnodup r hr)
  · -- whatever an element binds under a name is the field of that name
    intro r hr i e he k v w hv hw
    obtain ⟨key, hkey, rfl⟩ := made r i e he
    have field : ∀ x, (k, x) ∈ Property.of b.excluded r ++ [(b.key, Property.bindable key)] →
        ∃ y, Fields.get? r k = some y ∧ x = Property.bindable y := by
      intro x hx
      rcases List.mem_append.mp hx with hx | hx
      · obtain ⟨y, hy, -, -, rfl⟩ := Property.mem_of.mp hx
        exact ⟨y, Fields.get?_of_mem (hnodup r hr) hy, rfl⟩
      · obtain ⟨rfl, rfl⟩ := by simpa using hx
        exact ⟨key, hkey, rfl⟩
    obtain ⟨y, hy, rfl⟩ := field v hv
    obtain ⟨z, hz, rfl⟩ := field w hw
    rw [hy] at hz
    rw [Option.some.inj hz]

/-! ## The statement -/

theorem statement?_of_labels_eq_nil {b : NodeBatch} (h : b.labels = []) : b.statement? = none := by
  rw [statement?, h]

theorem statement?_of_labels_eq_cons {b : NodeBatch} (h : b.labels = label :: others) :
    b.statement? = if b.elements = [] then none
      else some (.ofElements b.elements "node_data" (b.clauses label others)) := by
  rw [statement?, h]
  cases b.elements with
  | nil => rfl
  | cons e r => rw [if_neg (List.cons_ne_nil e r)]

/-- There is a statement if and only if a record can be written. It says the row of each such
record, in order, and then its clauses. The parameters in its text are those that it binds, and it
assigns as many properties as stand in its rows. -/
theorem reads_back_nodes (b : NodeBatch) (hid : b.id.toList.all Char.isAlphanum)
    (hrecords : ∀ r ∈ b.records, r.keys.Nodup) (hlabels : b.labels = label :: others) :
    (b.statement? = none ↔ b.usable = []) ∧
      ∀ s, b.statement? = some s →
        s.reading? = some ⟨b.usable.map b.row, b.clauseLexemes label others⟩ ∧
        (∀ p, p ∈ s.namedParameters ↔ p ∈ s.parameters.keys) ∧
        s.propertyBindings = ((b.usable.map b.row).flatMap Row.properties).length := by
  have hlisted := listed_elements hid hrecords
  have hrows := map_row_elements b
  have hnone : b.elements = [] ↔ b.usable = [] := by
    rw [← List.map_eq_nil_iff (f := Element.row), hrows, List.map_eq_nil_iff]
  by_cases hempty : b.elements = []
  · have hs : b.statement? = none := by
      rw [statement?, hlabels, hempty]
    exact ⟨by simp [hs, hnone.mp hempty], by simp [hs]⟩
  · have hs : b.statement? =
        some (.ofElements b.elements "node_data" (b.clauses label others)) := by
      rw [statement?, hlabels]
      cases he : b.elements with
      | nil => exact absurd he hempty
      | cons => rfl
    refine ⟨by simp [hs, ← hnone, hempty], ?_⟩
    intro s heq
    obtain rfl := Option.some.inj (hs.symm.trans heq)
    exact Statement.says_ofElements hlisted spaced_clauseLexemes chars_clauseLexemes hempty
      parameter_not_mem_clauseLexemes hrows

/-- A repeated record and one without a key leave one row. -/
theorem reads_back_nodes_once :
    ∃ s, (⟨"b0n", [[("age", .nat 30), ("uid", .nat 1)], [("uid", .string "")],
        [("age", .nat 30), ("uid", .nat 1)]], "uid", ["Person", "Member"], ["uid"], true⟩ :
        NodeBatch).statement? = some s ∧
      s.reading? = some ⟨[⟨[.nat 1], [("age", .nat 30)]⟩],
        plain " AS node_data\nUNWIND node_data AS node\nMERGE (n:" ++ .name "Person" ::
          (plain " \x7b" ++ .name "uid" :: (plain ":node[0]\x7d)\nSET n += node[1]\nSET n:" ++
            [.name "Member"]))⟩ := by
  obtain ⟨hnone, hsome⟩ := reads_back_nodes ⟨"b0n", [[("age", .nat 30), ("uid", .nat 1)],
    [("uid", .string "")], [("age", .nat 30), ("uid", .nat 1)]], "uid", ["Person", "Member"],
    ["uid"], true⟩ (by decide) (by decide) rfl
  cases hs : NodeBatch.statement? _ with
  | none => exact absurd (hnone.mp hs) (by decide +kernel)
  | some s =>
    refine ⟨s, rfl, ?_⟩
    rw [(hsome s hs).1]
    decide +kernel

end GraphLoad.NodeBatch
