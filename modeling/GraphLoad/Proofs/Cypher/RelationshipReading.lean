import GraphLoad.Proofs.Cypher.ElementReading
import GraphLoad.Proofs.Record.Endpoint
import GraphLoad.Proofs.Record.Property

/-!
# Statements of relationship batches

`reads_back_relationships`: the statement of a batch says what the records of the batch say, one row
for each record that has both endpoints. An endpoint and a property share a placeholder if they
stand under one key; then they share the value too (`bound_agree`), because an endpoint is found
under the whole key before the key is taken for a path.
-/

namespace GraphLoad.RelationshipBatch

open Cypher

/-! ## What a batch says -/

/-- The records that have both endpoints. -/
def related (b : RelationshipBatch) : List Record :=
  (if b.dedupe then Record.distinct b.records else b.records).filter fun r =>
    (r.scalarAt? b.source.recordKey).isSome && (r.scalarAt? b.target.recordKey).isSome

/-- The endpoints and the properties that a record gives. -/
def row (b : RelationshipBatch) (r : Record) : Row Json where
  ends := (r.scalarAt? b.source.recordKey).toList ++ (r.scalarAt? b.target.recordKey).toList
  properties := r.filterMap fun (name, value) =>
    if name ∈ b.excludeKeys ∨ Property.isBlank value then none
    else some (name, Property.bindable value)

/-- The clause that finds the node of an endpoint. -/
def matchLexemes (variableName : String) (e : Endpoint) (position : String) : List Lexeme :=
  plain ("MATCH (" ++ variableName) ++
    (e.label.toList.flatMap (fun label => [.char ':', .name label]) ++
    (plain " \x7b" ++ .name e.nodeKey :: plain (":tuple[" ++ position ++ "]\x7d)\n")))

/-- What stands behind the list. -/
def clauseLexemes (b : RelationshipBatch) : List Lexeme :=
  plain " AS from_to_data\nUNWIND from_to_data AS tuple\n" ++
    (matchLexemes "fromNode" b.source "0" ++ (matchLexemes "toNode" b.target "1" ++
    (plain (if b.dedupe then "MERGE" else "CREATE") ++ (plain " (fromNode)-[r:" ++
    .name b.type :: plain "]->(toNode)\nSET r += tuple[2]"))))

variable {b : RelationshipBatch}

/-! ## The clauses -/

theorem chars_matchLexemes (variableName : String) (e : Endpoint) (position : String) :
    (matchLexemes variableName e position).flatMap Lexeme.chars =
      (matchClause variableName e position).toList := by
  rw [matchLexemes]
  unfold matchClause
  cases e.label <;>
    simp only [Option.toList_none, Option.toList_some, List.flatMap_nil, List.flatMap_cons,
      List.flatMap_append, flatMap_chars_plain, Lexeme.chars, quote, String.toList_append,
      String.toList_ofList, List.append_assoc, List.append_nil, List.nil_append] <;> rfl

theorem chars_clauseLexemes :
    b.clauseLexemes.flatMap Lexeme.chars =
      (" AS " ++ "from_to_data" ++ "\n" ++ b.clauses).toList := by
  have hopen : " AS from_to_data\nUNWIND from_to_data AS tuple\n" =
      " AS " ++ "from_to_data" ++ "\n" ++ "UNWIND from_to_data AS tuple\n" := by decide
  rw [clauseLexemes, hopen]
  unfold clauses
  simp only [List.flatMap_append, List.flatMap_cons, flatMap_chars_plain, chars_matchLexemes,
    Lexeme.chars, quote, String.toList_append, String.toList_ofList, List.append_assoc]

theorem spaced_matchLexemes {variableName : String} {e : Endpoint} {position : String}
    {ls : List Lexeme} (hv : ("MATCH (" ++ variableName).toList.all fun c => c != '\x60' && c != '$')
    (hp : (":tuple[" ++ position ++ "]\x7d)\n").toList.all fun c => c != '\x60' && c != '$')
    (h : Spaced ls) : Spaced (matchLexemes variableName e position ++ ls) := by
  have hkey : Spaced (plain " \x7b" ++ .name e.nodeKey ::
      (plain (":tuple[" ++ position ++ "]\x7d)\n") ++ ls)) := by
    refine .plain_append (by decide) (.name ?_ (.plain_append hp h))
    simp [Stops, plain, isWord]
  rw [matchLexemes, List.append_assoc, List.append_assoc, List.append_assoc, List.cons_append]
  refine .plain_append hv ?_
  cases e.label with
  | none => exact hkey
  | some label => exact .char (by decide) (by decide) (.name (.char rfl) hkey)

theorem spaced_clauseLexemes : Spaced b.clauseLexemes := by
  refine .plain_append (by decide) (spaced_matchLexemes (by decide) (by decide) ?_)
  refine spaced_matchLexemes (by decide) (by decide) (.plain_append ?_ ?_)
  · cases b.dedupe <;> decide
  · refine .plain_append (by decide) (.name (.char rfl) ?_)
    rw [← List.append_nil (plain _)]
    exact .plain_append (by decide) .nil

theorem parameter_not_mem_clauseLexemes (p : String) : .parameter p ∉ b.clauseLexemes := by
  have hmatch : ∀ v e position, .parameter p ∉ matchLexemes v e position := by
    intro v e position
    cases hlabel : e.label <;> simp [matchLexemes, parameter_not_mem_plain, hlabel]
  simp [clauseLexemes, hmatch, parameter_not_mem_plain]

/-! ## The elements -/

/-- The element of a record holds its endpoints and properties. -/
theorem element?_eq_some_iff {r : Record} {i : Nat} {e : Element} :
    b.element? r i = some e ↔ ∃ v w, r.scalarAt? b.source.recordKey = some v ∧
      r.scalarAt? b.target.recordKey = some w ∧
      e = ⟨b.id ++ toString i, [(b.source.recordKey, v), (b.target.recordKey, w)],
        Property.of b.excludeKeys r⟩ := by
  rw [element?, Record.endpointValue?_eq, Record.endpointValue?_eq]
  cases r.scalarAt? b.source.recordKey with
  | none => simp
  | some v =>
    cases r.scalarAt? b.target.recordKey with
    | none => simp
    | some w => simp [eq_comm]

theorem row_of_element? (r : Record) (i : Nat) :
    (b.element? r i).map Element.row =
      (if (r.scalarAt? b.source.recordKey).isSome && (r.scalarAt? b.target.recordKey).isSome then
        some r else none).map b.row := by
  rw [element?, Record.endpointValue?_eq, Record.endpointValue?_eq]
  cases hv : r.scalarAt? b.source.recordKey with
  | none => rfl
  | some v =>
    cases hw : r.scalarAt? b.target.recordKey with
    | none => rfl
    | some w => simp [Element.row, row, hv, hw, Property.of_eq_filterMap]

theorem map_row_elements (b : RelationshipBatch) :
    b.elements.map Element.row = b.related.map b.row := by
  rw [elements, Element.map_row_numbered row_of_element?, ← List.map_filterMap, related, candidates,
    ← List.filterMap_eq_filter]
  rfl

/-- An endpoint and a property under one key have one value: the property stands under the whole
key, and it is not `null`. -/
theorem bound_agree {r : Record} (hr : (Fields.keys r).Nodup) {k : String} {v w : Json}
    (hv : r.scalarAt? k = some v) (hw : (k, w) ∈ Property.of b.excludeKeys r) : v = w := by
  obtain ⟨x, hx, -, hblank, rfl⟩ := Property.mem_of.mp hw
  have hget := Fields.get?_of_mem hr hx
  obtain ⟨hscalar, hfound⟩ := Record.scalarAt?_eq_some_iff.mp hv
  have hflat : x = v := by
    rcases hfound with hfound | ⟨hnull, -⟩
    · rw [hget] at hfound
      exact Option.some.inj hfound
    · rw [hget, Option.all_some] at hnull
      cases x with
      | null => exact absurd hblank (by decide)
      | bool | number | string | array | object => exact absurd hnull Bool.false_ne_true
  subst hflat
  cases x with
  | null | bool | number | string => rfl
  | array | object => exact absurd hscalar Bool.false_ne_true

theorem listed_elements (hid : b.id.toList.all Char.isAlphanum)
    (hrecords : ∀ r ∈ b.records, r.keys.Nodup) : Element.Listed b.elements := by
  have hnodup : ∀ r ∈ b.candidates, r.keys.Nodup := fun r hr =>
    hrecords r (Record.mem_of_mem_candidates hr)
  refine .of_numbered hid ?_ b.candidates ?_ ?_ ?_
  · intro r i e he
    obtain ⟨v, w, -, -, rfl⟩ := element?_eq_some_iff.mp he
    rfl
  · intro r _ i e he
    obtain ⟨v, w, -, -, rfl⟩ := element?_eq_some_iff.mp he
    exact List.cons_ne_nil _ _
  · intro r hr i e he
    obtain ⟨v, w, -, -, rfl⟩ := element?_eq_some_iff.mp he
    exact Property.nodup_keys_of (hnodup r hr)
  · intro r hr i e he k v w hv hw
    obtain ⟨source, target, hsource, htarget, rfl⟩ := element?_eq_some_iff.mp he
    have ends : ∀ x, (k, x) ∈ [(b.source.recordKey, source), (b.target.recordKey, target)] →
        r.scalarAt? k = some x := by
      intro x hx
      simp only [List.mem_cons, Prod.mk.injEq, List.not_mem_nil, or_false] at hx
      rcases hx with ⟨rfl, rfl⟩ | ⟨rfl, rfl⟩
      · exact hsource
      · exact htarget
    rcases List.mem_append.mp hv with hv | hv <;> rcases List.mem_append.mp hw with hw | hw
    · have hkeys : (Fields.keys (Property.of b.excludeKeys r)).Nodup :=
        Property.nodup_keys_of (hnodup r hr)
      have hget := Fields.get?_of_mem hkeys hv
      rw [Fields.get?_of_mem hkeys hw] at hget
      exact (Option.some.inj hget).symm
    · exact (bound_agree (hnodup r hr) (ends w hw) hv).symm
    · exact bound_agree (hnodup r hr) (ends v hv) hw
    · exact Option.some.inj ((ends v hv).symm.trans (ends w hw))

/-! ## The statement -/

theorem statement?_eq (b : RelationshipBatch) :
    b.statement? = if b.elements = [] then none
      else some (.ofElements b.elements "from_to_data" b.clauses) := by
  rw [statement?]
  cases b.elements with
  | nil => rfl
  | cons e r => rw [if_neg (List.cons_ne_nil e r)]

/-- There is a statement if and only if a record has both endpoints. It says the row of each such
record, in order, and then its clauses. The parameters in its text are those that it binds, and it
assigns as many properties as stand in its rows. -/
theorem reads_back_relationships (b : RelationshipBatch) (hid : b.id.toList.all Char.isAlphanum)
    (hrecords : ∀ r ∈ b.records, r.keys.Nodup) :
    (b.statement? = none ↔ b.related = []) ∧
      ∀ s, b.statement? = some s →
        s.reading? = some ⟨b.related.map b.row, b.clauseLexemes⟩ ∧
        (∀ p, p ∈ s.namedParameters ↔ p ∈ s.parameters.keys) ∧
        s.propertyBindings = ((b.related.map b.row).flatMap Row.properties).length := by
  have hlisted := listed_elements hid hrecords
  have hrows := map_row_elements b
  have hnone : b.elements = [] ↔ b.related = [] := by
    rw [← List.map_eq_nil_iff (f := Element.row), hrows, List.map_eq_nil_iff]
  by_cases hempty : b.elements = []
  · have hs : b.statement? = none := by
      rw [statement?, hempty]
    exact ⟨by simp [hs, hnone.mp hempty], by simp [hs]⟩
  · have hs : b.statement? = some (.ofElements b.elements "from_to_data" b.clauses) := by
      rw [statement?]
      cases he : b.elements with
      | nil => exact absurd he hempty
      | cons => rfl
    refine ⟨by simp [hs, ← hnone, hempty], ?_⟩
    intro s heq
    obtain rfl := Option.some.inj (hs.symm.trans heq)
    exact Statement.says_ofElements hlisted spaced_clauseLexemes chars_clauseLexemes hempty
      parameter_not_mem_clauseLexemes hrows

/-- An endpoint that is a property as well, and one behind a dotted key. -/
theorem reads_back_relationships_dotted :
    ∃ s, (⟨"b0r", [[("uid", .nat 1), ("to", .object [("uid", .nat 2)])], [("uid", .nat 3)]],
        ⟨none, "uid", "uid"⟩, ⟨some "Person", "uid", "to.uid"⟩, "KNOWS", ["to"], false⟩ :
        RelationshipBatch).statement? = some s ∧
      s.reading?.map Reading.rows = some [⟨[.nat 1, .nat 2], [("uid", .nat 1)]⟩] := by
  obtain ⟨hnone, hsome⟩ := reads_back_relationships ⟨"b0r", [[("uid", .nat 1),
    ("to", .object [("uid", .nat 2)])], [("uid", .nat 3)]], ⟨none, "uid", "uid"⟩,
    ⟨some "Person", "uid", "to.uid"⟩, "KNOWS", ["to"], false⟩ (by decide) (by decide)
  cases hs : RelationshipBatch.statement? _ with
  | none => exact absurd (hnone.mp hs) (by decide +kernel)
  | some s =>
    refine ⟨s, rfl, ?_⟩
    rw [(hsome s hs).1]
    decide +kernel

end GraphLoad.RelationshipBatch
