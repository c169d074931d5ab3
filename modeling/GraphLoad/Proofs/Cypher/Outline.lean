import GraphLoad.Proofs.Cypher.NodeReading
import GraphLoad.Proofs.Cypher.RelationshipReading
import GraphLoad.Proofs.Specification.Outline

/-!
# Statements without their values

A statement is emptied by binding `null` to each of its parameters; text, names and the number of
properties stay. Once emptied, the statement of a batch is that of the outlines
of its records, provided that no record is dropped as a repetition (`emptied_statement?_outline`).
-/

namespace GraphLoad

/-- The fields with `null` under each key. -/
def Fields.emptied (fields : Fields) : Fields :=
  fields.mapValues fun _ => .null

/-- The element with `null` for each value. -/
def Element.emptied (e : Element) : Element :=
  { e with ends := e.ends.emptied, properties := e.properties.emptied }

/-- The statement with `null` bound to each parameter. -/
def Statement.emptied (s : Statement) : Statement :=
  { s with parameters := s.parameters.emptied }

namespace Fields

variable (fields a b entries : Fields)

@[simp]
theorem keys_emptied : fields.emptied.keys = fields.keys :=
  keys_mapValues _ fields

theorem emptied_append : emptied (a ++ b) = a.emptied ++ b.emptied :=
  mapValues_append _ a b

theorem ofList_emptied : ofList entries.emptied = (ofList entries).emptied :=
  ofList_mapValues _ entries

theorem map_emptied {α : Type} (f : String → α) :
    (fields.emptied.map fun e => f e.1) = fields.map fun e => f e.1 := by
  rw [emptied, mapValues, List.map_map]
  rfl

theorem emptied_map (f : String → String) :
    emptied (fields.map fun e => (f e.1, e.2)) = fields.emptied.map fun e => (f e.1, e.2) := by
  rw [emptied, mapValues, emptied, mapValues, List.map_map, List.map_map]
  rfl

end Fields

namespace Element

variable (e : Element)

theorem fragment_emptied :
    e.emptied.fragment = ⟨e.fragment.text, e.fragment.parameters.emptied⟩ := by
  rw [fragment, fragment, Fragment.ofProperties, Fragment.ofProperties, ← Fields.ofList_emptied,
    Fields.emptied_map _ fun key => Cypher.placeholder key e.suffix]
  dsimp only [emptied]
  rw [Fields.map_emptied _ fun key => Cypher.quote key ++ ":$" ++ Cypher.placeholder key e.suffix]

theorem text_emptied : e.emptied.text = e.text := by
  rw [text, text, fragment_emptied]
  dsimp only [emptied]
  rw [Fields.map_emptied _ fun key => "$" ++ Cypher.placeholder key e.suffix]

theorem bindings_emptied : e.emptied.bindings = Fields.emptied e.bindings := by
  rw [bindings, bindings, fragment_emptied, Fields.emptied_append,
    Fields.emptied_map _ fun key => Cypher.placeholder key e.suffix]
  rfl

theorem emptied_filterMap_outline {element? : Record → Nat → Option Element}
    (h : ∀ r i, (element? (Fields.outline r) i).map emptied = (element? r i).map emptied)
    (records : List Record) :
    ((records.map Fields.outline).zipIdx.filterMap fun (r, i) => element? r i).map emptied =
      (records.zipIdx.filterMap fun (r, i) => element? r i).map emptied := by
  rw [List.map_filterMap, List.map_filterMap, List.zipIdx_map, List.filterMap_map]
  congr 1
  funext ⟨r, i⟩
  exact h r i

end Element

namespace Statement

private theorem flatMap_emptied {f : Element → Fields} (hf : ∀ e, f e.emptied = (f e).emptied)
    (elements : List Element) :
    (elements.map Element.emptied).flatMap f = Fields.emptied (elements.flatMap f) := by
  induction elements with
  | nil => rfl
  | cons e r ih =>
    rw [List.map_cons, List.flatMap_cons, List.flatMap_cons, ih, hf, Fields.emptied_append]

theorem emptied_ofElements (elements : List Element) (listName clauses : String) :
    (ofElements elements listName clauses).emptied =
      ofElements (elements.map Element.emptied) listName clauses := by
  have htexts : (elements.map Element.emptied).map Element.text = elements.map Element.text := by
    rw [List.map_map]
    exact List.map_congr_left fun e _ => e.text_emptied
  have hfragments : ∀ e : Element, e.emptied.fragment.parameters = e.fragment.parameters.emptied :=
    fun e => congrArg Fragment.parameters e.fragment_emptied
  rw [ofElements, ofElements, htexts, flatMap_emptied Element.bindings_emptied,
    flatMap_emptied hfragments, Fields.ofList_emptied, emptied]
  congr 1
  exact (List.length_map _).symm

theorem emptied_of_elements {a b : List Element}
    (h : a.map Element.emptied = b.map Element.emptied) (listName clauses : String) :
    (if a = [] then none else some (ofElements a listName clauses)).map emptied =
      (if b = [] then none else some (ofElements b listName clauses)).map emptied := by
  have hnil : a = [] ↔ b = [] := by
    rw [← List.map_eq_nil_iff, h, List.map_eq_nil_iff]
  simp only [hnil]
  split
  · rfl
  · rw [Option.map_some, Option.map_some, emptied_ofElements, emptied_ofElements, h]

end Statement

/-! ## Batches -/

theorem Property.emptied_of_outline (exclude : List String) (record : Record) :
    Fields.emptied (of exclude (Fields.outline record)) = Fields.emptied (of exclude record) := by
  have hkept : (fun e : String × Json => !exclude.contains e.1 && !isBlank e.2) ∘
      (fun e : String × Json => (e.1, e.2.outline)) =
        fun e => !exclude.contains e.1 && !isBlank e.2 := by
    funext e
    exact congrArg (fun blank => !exclude.contains e.1 && !blank) (Json.isBlank_outline e.2)
  rw [of, of, Fields.outline, Fields.mapValues, List.filter_map, hkept]
  simp only [Fields.emptied, Fields.mapValues, List.map_map]
  rfl

namespace NodeBatch

variable (b : NodeBatch)

/-- The batch with the outlines of its records. -/
def outline : NodeBatch :=
  { b with records := b.records.map Fields.outline }

theorem keyValue?_outline (key : String) (r : Record) :
    keyValue? key (Fields.outline r) = (keyValue? key r).map Json.outline := by
  have hblank : (fun v => !Property.isBlank v) ∘ Json.outline = fun v => !Property.isBlank v := by
    funext v
    exact congrArg _ (Json.isBlank_outline v)
  rw [keyValue?, keyValue?, Fields.get?_mapValues, Option.filter_map, hblank]

theorem emptied_element?_outline (r : Record) (i : Nat) :
    (b.element? (Fields.outline r) i).map Element.emptied =
      (b.element? r i).map Element.emptied := by
  rw [element?, element?, keyValue?_outline, Option.map_map, Option.map_map, Option.map_map]
  congr 1
  funext v
  simp only [Function.comp_apply, Element.emptied, Property.emptied_of_outline]
  rfl

theorem emptied_elements_outline (h : b.dedupe = false) :
    b.outline.elements.map Element.emptied = b.elements.map Element.emptied := by
  have hall : b.candidates = b.records := by rw [candidates, h, if_neg Bool.false_ne_true]
  have hout : b.outline.candidates = b.records.map Fields.outline := by
    rw [candidates, show b.outline.dedupe = false from h, if_neg Bool.false_ne_true, outline]
  rw [elements, elements, hall, hout]
  exact Element.emptied_filterMap_outline b.emptied_element?_outline b.records

theorem emptied_statement?_outline (h : b.dedupe = false) :
    b.outline.statement?.map Statement.emptied = b.statement?.map Statement.emptied := by
  cases hlabels : b.labels with
  | nil =>
    rw [statement?_of_labels_eq_nil hlabels,
      statement?_of_labels_eq_nil (b := b.outline) hlabels]
  | cons label others =>
    rw [statement?_of_labels_eq_cons hlabels,
      statement?_of_labels_eq_cons (b := b.outline) hlabels]
    exact Statement.emptied_of_elements (b.emptied_elements_outline h) "node_data"
      (b.clauses label others)

end NodeBatch

namespace RelationshipBatch

variable (b : RelationshipBatch)

/-- The batch with the outlines of its records. -/
def outline : RelationshipBatch :=
  { b with records := b.records.map Fields.outline }

theorem emptied_element?_outline (r : Record) (i : Nat) :
    (b.element? (Fields.outline r) i).map Element.emptied =
      (b.element? r i).map Element.emptied := by
  rw [element?, element?, Record.endpointValue?_outline, Record.endpointValue?_outline]
  cases r.endpointValue? b.source.recordKey with
  | none => rfl
  | some v =>
    cases r.endpointValue? b.target.recordKey with
    | none => rfl
    | some w =>
      simp only [Option.map_some, Element.emptied, Property.emptied_of_outline]
      rfl

theorem emptied_elements_outline (h : b.dedupe = false) :
    b.outline.elements.map Element.emptied = b.elements.map Element.emptied := by
  have hall : b.candidates = b.records := by rw [candidates, h, if_neg Bool.false_ne_true]
  have hout : b.outline.candidates = b.records.map Fields.outline := by
    rw [candidates, show b.outline.dedupe = false from h, if_neg Bool.false_ne_true, outline]
  rw [elements, elements, hall, hout]
  exact Element.emptied_filterMap_outline b.emptied_element?_outline b.records

theorem emptied_statement?_outline (h : b.dedupe = false) :
    b.outline.statement?.map Statement.emptied = b.statement?.map Statement.emptied := by
  rw [statement?_eq, statement?_eq]
  exact Statement.emptied_of_elements (b.emptied_elements_outline h) "from_to_data" b.clauses

end RelationshipBatch
end GraphLoad
