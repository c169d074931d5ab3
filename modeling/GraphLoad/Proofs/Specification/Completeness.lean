import GraphLoad.Proofs.Cypher.NodeReading
import GraphLoad.Proofs.Cypher.RelationshipReading
import GraphLoad.Proofs.Json.Writing
import GraphLoad.Proofs.Specification.Proper
import GraphLoad.Proofs.Specification.Valid
import GraphLoad.Proofs.Traversal
import GraphLoad.Specification.Compilation

/-!
# Nothing is lost in a compilation

`compile_carries`: a specification is compiled to the statements of its groups, one group after
another, unless a list in the records of a relationship group cannot be expanded. The statements of a
group say the rows of its usable records, slice by slice (`Statement.Carry`).
-/

namespace GraphLoad

open List (Forall₂)

/-! ## What the statements of a group say -/

/-- The records that are written: those that are usable, slice by slice, and each once in a slice if
repeated ones are dropped. -/
def Record.kept (size : Nat) (dedupe : Bool) (usable : Record → Bool) (records : List Record) :
    List Record :=
  (slices size records).flatMap fun slice =>
    (if dedupe then distinct slice else slice).filter usable

namespace Statement

/-- The rows that statements say, one statement after another; none if one cannot be read. -/
def rows? (statements : List Statement) : Option (List (Row Json)) :=
  (statements.mapM reading?).map (·.flatMap Reading.rows)

/-- The statements say a row for each record that is written, in order. These are all usable records
one by one if repeated ones are kept; otherwise each of them is there. -/
structure Carry (size : Nat) (dedupe : Bool) (usable : Record → Bool) (row : Record → Row Json)
    (records : List Record) (statements : List Statement) : Prop where
  rows : rows? statements = some ((Record.kept size dedupe usable records).map row)
  one_by_one : dedupe = false → rows? statements = some ((records.filter usable).map row)
  mem_kept : ∀ r, r ∈ Record.kept size dedupe usable records ↔ r ∈ records ∧ usable r

end Statement

/-- Whether a record has a node to write: a value under the key that is not blank. -/
def NodeGroup.usable (g : NodeGroup) (r : Record) : Bool :=
  (Fields.get? r g.key).any (!Property.isBlank ·)

/-- The value of the key and the properties that a record gives: what is neither blank nor excluded. A node
that is created has its key among the properties. -/
def NodeGroup.row (g : NodeGroup) (r : Record) : Row Json where
  ends := (Fields.get? r g.key).toList.map Property.bindable
  properties := r.filterMap fun (name, value) =>
    if (name ∈ g.excludeKeys ∧ (g.dedupe ∨ name ≠ g.key)) ∨ Property.isBlank value then none
    else some (name, Property.bindable value)

/-- The statements are what the group, cut into slices, is written by. -/
def NodeGroup.Carried (g : NodeGroup) (size : Nat) (statements : List Statement) : Prop :=
  Statement.Carry size g.dedupe g.usable g.row g.records statements

/-- Whether both endpoints of a record are scalars. -/
def RelationshipGroup.usable (g : RelationshipGroup) (r : Record) : Bool :=
  (r.scalarAt? g.source.recordKey).isSome && (r.scalarAt? g.target.recordKey).isSome

/-- The field is no property: it is excluded, or else, where that is asked for, it is one under which an
endpoint is found or which leads to it. -/
def RelationshipGroup.Excluded (g : RelationshipGroup) (name : String) : Prop :=
  if g.autoExcludeKeys then
    ∃ e ∈ [g.source, g.target], name = e.recordKey ∨ (Path.segments e.recordKey).head? = some name
  else name ∈ g.excludeKeys

instance (g : RelationshipGroup) (name : String) : Decidable (g.Excluded name) :=
  inferInstanceAs (Decidable (if g.autoExcludeKeys then
    ∃ e ∈ [g.source, g.target], name = e.recordKey ∨ (Path.segments e.recordKey).head? = some name
  else name ∈ g.excludeKeys))

/-- The endpoints and the properties that a record gives: what is neither blank nor excluded. -/
def RelationshipGroup.row (g : RelationshipGroup) (r : Record) : Row Json where
  ends := (r.scalarAt? g.source.recordKey).toList ++ (r.scalarAt? g.target.recordKey).toList
  properties := r.filterMap fun (name, value) =>
    if g.Excluded name ∨ Property.isBlank value then none else some (name, Property.bindable value)

/-- The statements are what the group, expanded already and cut into slices, is written by. -/
def RelationshipGroup.Carried (g : RelationshipGroup) (size : Nat) (statements : List Statement) :
    Prop :=
  Statement.Carry size g.dedupe g.usable g.row g.records statements

/-- No object in a record has a key twice. -/
structure Specification.Proper (s : Specification) : Prop where
  nodes : ∀ g ∈ s.nodes, ∀ r ∈ g.records, Json.Proper (.object r)
  relationships : ∀ g ∈ s.relationships, ∀ r ∈ g.records, Json.Proper (.object r)

/-! ## Slices -/

namespace Record

variable {size : Nat} {dedupe : Bool} {usable : Record → Bool} {records slice : List Record}

theorem mem_of_mem_slices {r : Record} (hs : slice ∈ slices size records) (hr : r ∈ slice) :
    r ∈ records := by
  rw [← flatten_slices size records]
  exact List.mem_flatten.mpr ⟨slice, hs, hr⟩

theorem kept_of_keep (size : Nat) (usable : Record → Bool) (records : List Record) :
    kept size false usable records = records.filter usable := by
  rw [kept, List.flatMap_def]
  simp only [Bool.false_eq_true, if_false]
  rw [← List.filter_flatten, flatten_slices]

theorem mem_kept_iff {r : Record} : r ∈ kept size dedupe usable records ↔ r ∈ records ∧ usable r := by
  have hslice : ∀ slice : List Record,
      r ∈ (if dedupe then distinct slice else slice).filter usable ↔ r ∈ slice ∧ usable r := by
    intro slice
    rw [List.mem_filter]
    cases dedupe with
    | false => rfl
    | true => rw [if_pos rfl, mem_distinct]
  rw [kept, List.mem_flatMap]
  constructor
  · rintro ⟨slice, hs, hr⟩
    obtain ⟨hr, husable⟩ := (hslice slice).mp hr
    exact ⟨mem_of_mem_slices hs hr, husable⟩
  · rintro ⟨hr, husable⟩
    rw [← flatten_slices size records] at hr
    obtain ⟨slice, hs, hr⟩ := List.mem_flatten.mp hr
    exact ⟨slice, hs, (hslice slice).mpr ⟨hr, husable⟩⟩

end Record

namespace Statement

theorem rows?_cons {s : Statement} {reading : Reading} (h : s.reading? = some reading)
    (statements : List Statement) :
    rows? (s :: statements) = (rows? statements).map (reading.rows ++ ·) := by
  rw [rows?, rows?, List.mapM_cons, h]
  cases statements.mapM reading? <;> rfl

/-- A batch without a statement has no row, and the statement of any other says its rows. -/
def Says (statement? : Option Statement) (rows : List (Row Json)) : Prop :=
  (statement? = none ∧ rows = []) ∨
    ∃ s reading, statement? = some s ∧ s.reading? = some reading ∧ reading.rows = rows

theorem rows?_filterMap {B : Type} {statement? : B → Option Statement} (rows : B → List (Row Json))
    {batches : List B} (h : ∀ b ∈ batches, Says (statement? b) (rows b)) :
    rows? (batches.filterMap statement?) = some (batches.flatMap rows) := by
  induction batches with
  | nil => rfl
  | cons b r ih =>
    obtain ⟨hb, hr⟩ := List.forall_mem_cons.mp h
    rw [List.flatMap_cons]
    rcases hb with ⟨hnone, hrows⟩ | ⟨s, reading, hsome, hreading, hrows⟩
    · rw [List.filterMap_cons_none hnone, ih hr, hrows, List.nil_append]
    · rw [List.filterMap_cons_some hsome, rows?_cons hreading, ih hr, hrows, Option.map_some]

variable {size : Nat} {dedupe : Bool} {usable : Record → Bool} {row : Record → Row Json}
  {records : List Record}

/-- The statements of the slices, each with its position, carry the records. -/
theorem carry_slices {B : Type} (batch : List Record → Nat → B) (statement? : B → Option Statement)
    (h : ∀ slice ∈ Record.slices size records, ∀ i, Says (statement? (batch slice i))
      (((if dedupe then Record.distinct slice else slice).filter usable).map row)) :
    Carry size dedupe usable row records
      (((Record.slices size records).zipIdx.map fun (slice, i) => batch slice i).filterMap
        statement?) := by
  let rowsOf (slice : List Record) : List (Row Json) :=
    ((if dedupe then Record.distinct slice else slice).filter usable).map row
  have hposition : (Record.slices size records).zipIdx.flatMap (fun x => rowsOf x.1) =
      (Record.slices size records).flatMap rowsOf := by
    conv_rhs => rw [← List.zipIdx_map_fst 0 (Record.slices size records), List.flatMap_map]
  have hrows : rows? (((Record.slices size records).zipIdx.map fun (slice, i) =>
      batch slice i).filterMap statement?) =
        some ((Record.kept size dedupe usable records).map row) := by
    rw [List.filterMap_map, rows?_filterMap fun x => rowsOf x.1, hposition, Record.kept,
      List.map_flatMap]
    exact fun x hx => h x.1 (List.fst_mem_of_mem_zipIdx hx) x.2
  refine ⟨hrows, ?_, fun r => Record.mem_kept_iff⟩
  rintro rfl
  rw [hrows, Record.kept_of_keep]

end Statement

/-! ## Batches -/

namespace NodeBatch

variable {b : NodeBatch} {label : String} {others : List String} {s : Statement}

theorem statement?_eq_none_iff (hlabels : b.labels ≠ []) : b.statement? = none ↔ b.usable = [] := by
  obtain ⟨label, others, hcons⟩ := List.exists_cons_of_ne_nil hlabels
  rw [statement?_of_labels_eq_cons hcons, ← List.map_eq_nil_iff (f := b.row), ← map_row_elements,
    List.map_eq_nil_iff]
  simp

theorem reading?_of_statement? (hid : b.id.toList.all Char.isAlphanum)
    (hrecords : ∀ r ∈ b.records, (Fields.keys r).Nodup) (hlabels : b.labels = label :: others)
    (hs : b.statement? = some s) :
    s.reading? = some ⟨b.usable.map b.row, b.clauseLexemes label others⟩ := by
  rw [statement?_of_labels_eq_cons hlabels] at hs
  split at hs
  · cases hs
  · rename_i hne
    obtain rfl := Option.some.inj hs
    exact (Statement.says_ofElements (listed_elements hid hrecords) spaced_clauseLexemes
      chars_clauseLexemes hne parameter_not_mem_clauseLexemes (map_row_elements b)).1

theorem says_rows (hid : b.id.toList.all Char.isAlphanum)
    (hrecords : ∀ r ∈ b.records, (Fields.keys r).Nodup) (hlabels : b.labels ≠ []) :
    Statement.Says b.statement? (b.usable.map b.row) := by
  obtain ⟨label, others, hcons⟩ := List.exists_cons_of_ne_nil hlabels
  cases hs : b.statement? with
  | none =>
    rw [(statement?_eq_none_iff hlabels).mp hs]
    exact .inl ⟨rfl, rfl⟩
  | some s => exact .inr ⟨s, _, rfl, reading?_of_statement? hid hrecords hcons hs, rfl⟩

end NodeBatch

namespace RelationshipBatch

variable {b : RelationshipBatch} {s : Statement}

theorem statement?_eq_none_iff : b.statement? = none ↔ b.related = [] := by
  rw [statement?_eq, ← List.map_eq_nil_iff (f := b.row), ← map_row_elements, List.map_eq_nil_iff]
  simp

theorem reading?_of_statement? (hid : b.id.toList.all Char.isAlphanum)
    (hrecords : ∀ r ∈ b.records, (Fields.keys r).Nodup) (hs : b.statement? = some s) :
    s.reading? = some ⟨b.related.map b.row, b.clauseLexemes⟩ := by
  rw [statement?_eq] at hs
  split at hs
  · cases hs
  · rename_i hne
    obtain rfl := Option.some.inj hs
    exact (Statement.says_ofElements (listed_elements hid hrecords) spaced_clauseLexemes
      chars_clauseLexemes hne parameter_not_mem_clauseLexemes (map_row_elements b)).1

theorem says_rows (hid : b.id.toList.all Char.isAlphanum)
    (hrecords : ∀ r ∈ b.records, (Fields.keys r).Nodup) :
    Statement.Says b.statement? (b.related.map b.row) := by
  cases hs : b.statement? with
  | none =>
    rw [statement?_eq_none_iff.mp hs]
    exact .inl ⟨rfl, rfl⟩
  | some s => exact .inr ⟨s, _, rfl, reading?_of_statement? hid hrecords hs, rfl⟩

end RelationshipBatch

private theorem isAlphanum_id (i : Nat) (kind : String) (h : kind.toList.all Char.isAlphanum) :
    ("b" ++ toString i ++ kind).toList.all Char.isAlphanum := by
  rw [String.toList_append, String.toList_append, List.all_append, List.all_append,
    Cypher.all_isAlphanum_toString i, h]
  rfl

theorem NodeGroup.isAlphanum_batch_id (g : NodeGroup) (slice : List Record) (i : Nat) :
    (g.batch slice i).id.toList.all Char.isAlphanum :=
  isAlphanum_id i "n" (by decide)

theorem RelationshipGroup.isAlphanum_batch_id (g : RelationshipGroup) (slice : List Record)
    (i : Nat) : (g.batch slice i).id.toList.all Char.isAlphanum :=
  isAlphanum_id i "r" (by decide)

/-! ## Groups -/

theorem Record.chunks_of_pos {size : Nat} (h : 0 < size) (records : List Record) :
    chunks records size = .ok (slices size records) :=
  if_neg (Nat.pos_iff_ne_zero.mp h)

theorem Record.exists_slice {B : Type} {batch : List Record → Nat → B} {statement? : B → Option Statement}
    {slices : List (List Record)} {s : Statement}
    (h : s ∈ (slices.zipIdx.map fun (slice, i) => batch slice i).filterMap statement?) :
    ∃ slice ∈ slices, ∃ i, statement? (batch slice i) = some s := by
  obtain ⟨b, hb, hs⟩ := List.mem_filterMap.mp h
  obtain ⟨⟨slice, i⟩, hslice, rfl⟩ := List.mem_map.mp hb
  exact ⟨slice, List.fst_mem_of_mem_zipIdx hslice, i, hs⟩

theorem Json.Proper.nodup {fields : Fields} (h : Json.Proper (.object fields)) :
    fields.keys.Nodup :=
  (Json.everywhere_object_iff.mp h).1

namespace NodeGroup

variable {g : NodeGroup} {m size : Nat}

theorem row_batch (g : NodeGroup) (slice : List Record) (i : Nat) : (g.batch slice i).row = g.row :=
  rfl

theorem statements_of_pos (hm : 0 < m) (g : NodeGroup) :
    g.statements m = .ok (((Record.slices m g.records).zipIdx.map fun (slice, i) =>
      g.batch slice i).filterMap NodeBatch.statement?) := by
  rw [NodeGroup.statements, batches, Record.chunks_of_pos hm]
  rfl

theorem exists_statements (hsize : 0 < size) (hlabels : g.labels ≠ [])
    (hrecords : ∀ r ∈ g.records, Json.Proper (.object r)) :
    ∃ statements, g.statements size = .ok statements ∧ g.Carried size statements := by
  refine ⟨_, ?_, Statement.carry_slices g.batch NodeBatch.statement? fun slice hslice i => ?_⟩
  · rw [statements, batches, Record.chunks_of_pos hsize]
    rfl
  · exact NodeBatch.says_rows (b := g.batch slice i) (g.isAlphanum_batch_id slice i)
      (fun r hr => (hrecords r (Record.mem_of_mem_slices hslice hr)).nodup) hlabels

end NodeGroup

namespace RelationshipGroup

variable {g g' : RelationshipGroup} {size : Nat}

theorem mem_effectiveExcludeKeys {name : String} : name ∈ g.effectiveExcludeKeys ↔ g.Excluded name := by
  have hkeys : [g.source.recordKey, g.target.recordKey] = [g.source, g.target].map (·.recordKey) := rfl
  rw [effectiveExcludeKeys, Excluded]
  split
  · rw [KeySet.mem_ofList, hkeys, List.flatMap_map, List.mem_flatMap]
    refine exists_congr fun e => and_congr_right fun _ => ?_
    have hjoin := Path.join_segments e.recordKey
    -- Only a path of two segments at least leads into a top field.
    cases hsegs : Path.segments e.recordKey with
    | nil => exact absurd hsegs (Path.segments_ne_nil e.recordKey)
    | cons root rest =>
      cases rest with
      | nil =>
        rw [hsegs] at hjoin
        obtain rfl : root = e.recordKey := hjoin
        simp [eq_comm]
      | cons => simp [eq_comm]
  · rfl

theorem row_batch (g : RelationshipGroup) (slice : List Record) (i : Nat) :
    (g.batch slice i).row = g.row := by
  funext r
  refine congrArg (Row.mk _) (congrArg (List.filterMap · r) ?_)
  funext ⟨name, value⟩
  exact if_congr (or_congr_left mem_effectiveExcludeKeys) rfl rfl

theorem statements_of_expand (hsize : 0 < size) (h : g.expand = .ok g') :
    g.statements size = .ok (((Record.slices size g'.records).zipIdx.map fun (slice, i) =>
      g'.batch slice i).filterMap RelationshipBatch.statement?) := by
  rw [statements, batches, h]
  simp only
  rw [Record.chunks_of_pos hsize]
  rfl

/-- A group fails if and only if it cannot be expanded. -/
theorem statements_eq_error_iff (hsize : 0 < size) {e : CompileError} :
    g.statements size = .error e ↔ ∃ cause, g.expand = .error cause ∧ e = .expansion cause := by
  cases h : g.expand with
  | error cause =>
    have hstatements : g.statements size = .error (.expansion cause) := by
      rw [statements, batches, h]
      rfl
    rw [hstatements]
    constructor
    · intro he
      exact ⟨cause, rfl, (Except.error.inj he).symm⟩
    · rintro ⟨_, hc, rfl⟩
      rw [Except.error.inj hc]
  | ok g' =>
    rw [statements_of_expand hsize h]
    constructor
    · intro he
      cases he
    · rintro ⟨_, hc, -⟩
      cases hc

theorem exists_statements (hsize : 0 < size) (h : g.expand = .ok g')
    (hrecords : ∀ r ∈ g.records, Json.Proper (.object r)) :
    ∃ statements, g.statements size = .ok statements ∧ g'.Carried size statements := by
  refine ⟨_, statements_of_expand hsize h,
    Statement.carry_slices g'.batch RelationshipBatch.statement? fun slice hslice i => ?_⟩
  rw [← g'.row_batch slice i]
  exact RelationshipBatch.says_rows (b := g'.batch slice i) (g'.isAlphanum_batch_id slice i)
    fun r hr => (proper_expand h hrecords r (Record.mem_of_mem_slices hslice hr)).nodup

end RelationshipGroup

/-! ## Specifications -/

private theorem exists_forall₂ {α β : Type} {R : α → β → Prop} {l : List α}
    (h : ∀ x ∈ l, ∃ y, R x y) : ∃ ys, Forall₂ R l ys := by
  induction l with
  | nil => exact ⟨[], .nil⟩
  | cons x r ih =>
    obtain ⟨⟨y, hy⟩, hr⟩ := List.forall_mem_cons.mp h
    obtain ⟨ys, hys⟩ := ih hr
    exact ⟨y :: ys, .cons hy hys⟩

namespace Specification

variable {s : Specification} {m : Nat}

theorem labels_ne_nil (h : s.validate = .ok ()) : ∀ g ∈ s.nodes, g.labels ≠ [] :=
  fun g hg => ((validate_eq_ok_iff.mp h).1 g hg).labelled

theorem compile_of_nodes {ofNodes : List (List Statement)}
    (h : s.nodes.mapM (NodeGroup.statements · m) = .ok ofNodes) :
    s.compile m = (s.relationships.mapM (RelationshipGroup.statements · m)).map
      fun ofRelationships => ofNodes.flatten ++ ofRelationships.flatten := by
  have hnodes : (s.nodes.map Group.nodes).mapM (Group.statements m) = .ok ofNodes := by
    rw [List.mapM_map]
    exact h
  have hrelationships : (s.relationships.map Group.relationships).mapM (Group.statements m) =
      s.relationships.mapM (RelationshipGroup.statements · m) := by
    rw [List.mapM_map]
    rfl
  rw [compile, groups, List.mapM_append, hnodes, hrelationships]
  cases s.relationships.mapM (RelationshipGroup.statements · m) with
  | error e => rfl
  | ok ofRelationships => exact congrArg Except.ok List.flatten_append

/-- A compilation fails exactly when a relationship group cannot be expanded, with the error of the
first such group. Otherwise it gives the statements of the node groups and then those of the
relationship groups, group by group in order, and the statements of each group carry its records. -/
theorem compile_carries (hvalid : s.validate = .ok ()) (hproper : s.Proper) (hm : 0 < m) :
    (∀ e, s.compile m = .error e ↔ ∃ before g after cause,
      s.relationships = before ++ g :: after ∧ (∀ b ∈ before, ∃ b', b.expand = .ok b') ∧
        g.expand = .error cause ∧ e = .expansion cause) ∧
    ∀ statements, s.compile m = .ok statements →
      ∃ ofNodes ofRelationships : List (List Statement),
        statements = ofNodes.flatten ++ ofRelationships.flatten ∧
        Forall₂ (fun g sts => g.statements m = .ok sts ∧ g.Carried m sts) s.nodes ofNodes ∧
        Forall₂ (fun g sts => g.statements m = .ok sts ∧
          ∃ g', g.expand = .ok g' ∧ g'.dedupe = g.dedupe ∧ g'.Carried m sts)
          s.relationships ofRelationships := by
  obtain ⟨ofNodes, hnodes⟩ := exists_forall₂ fun g hg =>
    NodeGroup.exists_statements hm (labels_ne_nil hvalid g hg) (hproper.nodes g hg)
  have hcompile := compile_of_nodes (Traversal.mapM_eq_ok_iff.mpr (hnodes.imp fun _ _ h => h.1))
  rw [hcompile]
  have hexpands : ∀ g : RelationshipGroup,
      (∃ sts, g.statements m = .ok sts) ↔ ∃ g', g.expand = .ok g' := by
    intro g
    cases hg : g.expand with
    | error cause =>
      have hstatements := (g.statements_eq_error_iff hm).mpr ⟨cause, hg, rfl⟩
      simp [hstatements]
    | ok g' =>
      have hstatements := RelationshipGroup.statements_of_expand hm hg
      simp [hstatements]
  constructor
  · intro e
    have herror : (s.relationships.mapM (RelationshipGroup.statements · m)).map
        (fun ofRelationships => ofNodes.flatten ++ ofRelationships.flatten) = .error e ↔
          s.relationships.mapM (RelationshipGroup.statements · m) = .error e := by
      cases s.relationships.mapM (RelationshipGroup.statements · m) <;> simp [Except.map]
    rw [herror, Traversal.mapM_eq_error_iff]
    simp only [hexpands, RelationshipGroup.statements_eq_error_iff hm, exists_and_left]
  · intro statements h
    cases hr : s.relationships.mapM (RelationshipGroup.statements · m) with
    | error e =>
      rw [hr] at h
      cases h
    | ok ofRelationships =>
      rw [hr] at h
      refine ⟨ofNodes, ofRelationships, (Except.ok.inj h).symm, hnodes, ?_⟩
      have hall := (List.forall₂_and_left _ _).mpr
        ⟨hproper.relationships, Traversal.mapM_eq_ok_iff.mp hr⟩
      refine hall.imp fun g sts ⟨hrecords, hsts⟩ => ⟨hsts, ?_⟩
      obtain ⟨g', hg'⟩ := (hexpands g).mp ⟨sts, hsts⟩
      obtain ⟨sts', hsts', hcarried⟩ := RelationshipGroup.exists_statements hm hg' hrecords
      obtain rfl := Except.ok.inj (hsts'.symm.trans hsts)
      exact ⟨g', hg', RelationshipGroup.dedupe_expand hg', hcarried⟩

/-- People, one of them without a name and one given twice, and whom one of them knows. -/
def people : Specification where
  nodes := [⟨["Person"], "uid", [[("uid", .string "a")], [("uid", .string "")],
    [("uid", .string "b")], [("uid", .string "b")]], [], true⟩]
  relationships := [⟨"KNOWS", ⟨none, "uid", "from"⟩, ⟨none, "uid", "to.uid"⟩,
    [[("from", .string "a"), ("to", .array [.object [("uid", .string "b")],
      .object [("uid", .string "c")]])]], [], true, false⟩]

/-- In slices of two the group of nodes says two rows. -/
theorem compile_carries_slices :
    ∃ ofNodes ofRelationships, people.compile 2 = .ok (ofNodes ++ ofRelationships) ∧
      Statement.rows? ofNodes =
        some [⟨[.string "a"], [("uid", .string "a")]⟩, ⟨[.string "b"], [("uid", .string "b")]⟩] := by
  have hproper : people.Proper := by
    constructor <;>
      simp [people, Json.Proper, Json.everywhere_object_iff, Json.everywhere_array_iff, Fields.keys,
        or_imp, forall_and, Json.Everywhere.string]
  obtain ⟨-, hok⟩ := compile_carries (s := people) (m := 2) rfl hproper (by decide)
  cases hc : people.compile 2 with
  | error e =>
    have hisOk : (people.compile 2).isOk := by decide +kernel
    rw [hc] at hisOk
    cases hisOk
  | ok statements =>
    obtain ⟨ofNodes, ofRelationships, rfl, hnodes, -⟩ := hok statements hc
    cases hnodes with
    | cons hg hnil =>
      cases hnil
      rw [List.flatten_singleton]
      refine ⟨_, ofRelationships.flatten, rfl, ?_⟩
      rw [hg.2.rows]
      decide +kernel

end Specification
end GraphLoad
