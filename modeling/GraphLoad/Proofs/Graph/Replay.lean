import GraphLoad.Proofs.Graph.Rows
import GraphLoad.Proofs.Specification.Alike
import GraphLoad.Proofs.Specification.Completeness

/-!
# Groups that are written again

`replay_statements`: running all statements of a group a second time leaves the graph as it is if the
group is merged, and adds the same once more if it is created. What the statements ask for is read off
their text (`Graph.run?`).
-/

namespace GraphLoad

def Group.records : Group → List Record
  | nodes g => g.records
  | relationships g => g.records

/-! ## What statements ask for -/

/-- The statement is read, and its clauses ask for this write. -/
def Statement.Asks (write : Write) (s : Statement) : Prop :=
  ∃ reading, s.reading? = some reading ∧ Write.read? reading.clauses = some write

theorem Graph.run?_of_asks {write : Write} {statements : List Statement} {rows : List (Row Json)}
    (h : ∀ s ∈ statements, s.Asks write) (hrows : Statement.rows? statements = some rows)
    (g : Graph) : g.run? statements = rows.foldlM write.run? g := by
  induction statements generalizing rows g with
  | nil =>
    obtain rfl := Option.some.inj hrows
    rfl
  | cons s statements ih =>
    obtain ⟨⟨reading, hreading, hwrite⟩, hrest⟩ := List.forall_mem_cons.mp h
    rw [Statement.rows?_cons hreading] at hrows
    obtain ⟨others, hothers, rfl⟩ := Option.map_eq_some_iff.mp hrows
    have hs : s.run? g = reading.rows.foldlM write.run? g := by
      rw [Statement.run?, hreading]
      show (Write.read? reading.clauses).bind _ = _
      rw [hwrite]
      rfl
    rw [run?, List.foldlM_cons, hs, List.foldlM_append]
    congr 1
    funext next
    exact ih hrest hothers next

/-! ## The statement of a batch -/

namespace NodeBatch

variable {b : NodeBatch} {label : String} {others : List String}

def write (b : NodeBatch) (label : String) (others : List String) : Write :=
  if b.dedupe then .mergeNode label b.key others else .createNode label others

theorem asks (hid : b.id.toList.all Char.isAlphanum) (hrecords : ∀ r ∈ b.records, r.keys.Nodup)
    (hlabels : b.labels = label :: others) {s : Statement} (hs : b.statement? = some s) :
    s.Asks (b.write label others) :=
  ⟨_, reading?_of_statement? hid hrecords hlabels hs, Write.read?_node b label others⟩

end NodeBatch

namespace RelationshipBatch

variable {b : RelationshipBatch}

def write (b : RelationshipBatch) : Write :=
  (if b.dedupe then Write.mergeRelationship else Write.createRelationship)
    (Write.patternOf b.source) (Write.patternOf b.target) b.type

theorem asks (hid : b.id.toList.all Char.isAlphanum) (hrecords : ∀ r ∈ b.records, r.keys.Nodup)
    {s : Statement} (hs : b.statement? = some s) : s.Asks b.write :=
  ⟨_, reading?_of_statement? hid hrecords hs, Write.read?_relationship b⟩

end RelationshipBatch

/-! ## The statements of a group -/

namespace Record

theorem chunks_zero (records : List Record) : chunks records 0 = .error .zeroBatchSize :=
  if_pos rfl

end Record

/-- The statements together write these rows, all alike. -/
structure Statement.Together (statements : List Statement) (write : Write) (said : List (Row Json)) :
    Prop where
  rows : Statement.rows? statements = some said
  fits : write.Fits said
  run : ∀ g : Graph, g.run? statements = said.foldlM write.run? g

namespace NodeGroup

variable {g : NodeGroup} {m : Nat} {statements : List Statement} {label : String}
  {others : List String}

def write (g : NodeGroup) (label : String) (others : List String) : Write :=
  (g.batch [] 0).write label others

theorem write_of_merge (g : NodeGroup) (h : g.dedupe = true) :
    g.write label others = .mergeNode label g.key others :=
  if_pos h

theorem write_of_create (g : NodeGroup) (h : g.dedupe = false) :
    g.write label others = .createNode label others :=
  if_neg (Bool.not_eq_true _ ▸ h)

theorem pos_of_statements (h : g.statements m = .ok statements) : 0 < m := by
  refine Nat.pos_of_ne_zero ?_
  rintro rfl
  rw [NodeGroup.statements, batches, Record.chunks_zero] at h
  cases h

/-- A property under the key is the value that the node is found by. -/
theorem eq_of_mem_row {r : Record} (hr : r.keys.Nodup) {v x : Json}
    (hv : Fields.get? r g.key = some v) (hx : (g.key, x) ∈ (g.row r).properties) :
    x = Property.bindable v := by
  rw [← g.row_batch [] 0, NodeBatch.properties_row] at hx
  obtain ⟨y, hy, -, -, rfl⟩ := Property.mem_of.mp hx
  rw [Option.some.inj ((Fields.get?_of_mem hr hy).symm.trans hv)]

theorem fits_rows (hrecords : ∀ r ∈ g.records, r.keys.Nodup) (label : String)
    (others : List String) {l : List Record} (hl : ∀ r ∈ l, r ∈ g.records ∧ g.usable r) :
    (g.write label others).Fits (l.map g.row) := by
  let ws := l.map fun r =>
    (Property.bindable ((Fields.get? r g.key).getD .null), (g.row r).properties)
  have hget : ∀ r ∈ l, Fields.get? r g.key = some ((Fields.get? r g.key).getD .null) := by
    intro r hr
    have husable := (hl r hr).2
    cases hv : Fields.get? r g.key with
    | none =>
      rw [usable, hv] at husable
      cases husable
    | some v => rfl
  have hrows : l.map g.row = ws.map fun w => ⟨[w.1], w.2⟩ := by
    rw [List.map_map]
    refine List.map_congr_left fun r hr => ?_
    show (⟨(Fields.get? r g.key).toList.map Property.bindable, _⟩ : Row Json) = _
    rw [hget r hr]
    rfl
  rw [hrows]
  cases hdedupe : g.dedupe with
  | true =>
    rw [g.write_of_merge hdedupe]
    refine .mergeNode ws fun w hw x hx => ?_
    obtain ⟨r, hr, rfl⟩ := List.mem_map.mp hw
    exact eq_of_mem_row (hrecords r (hl r hr).1) (hget r hr) hx
  | false =>
    rw [g.write_of_create hdedupe]
    exact .createNode ws

theorem statements_of_labels_eq_nil (hlabels : g.labels = []) (h : g.statements m = .ok statements) :
    statements = [] := by
  rw [statements_of_pos (pos_of_statements h)] at h
  rw [← Except.ok.inj h, List.filterMap_eq_nil_iff]
  intro b hb
  obtain ⟨⟨slice, i⟩, -, rfl⟩ := List.mem_map.mp hb
  exact NodeBatch.statement?_of_labels_eq_nil hlabels

/-- The rows are those of the records that are kept. -/
theorem together_of_labels (hrecords : ∀ r ∈ g.records, Json.Proper (.object r))
    (hlabels : g.labels = label :: others) (h : g.statements m = .ok statements) :
    Statement.Together statements (g.write label others)
      ((Record.kept m g.dedupe g.usable g.records).map g.row) := by
  have hm := pos_of_statements h
  have hnodup : ∀ r ∈ g.records, r.keys.Nodup := fun r hr => (hrecords r hr).nodup
  obtain ⟨_, hsame, hcarried⟩ :=
    exists_statements hm (hlabels ▸ List.cons_ne_nil label others) hrecords
  obtain rfl := Except.ok.inj (hsame.symm.trans h)
  refine ⟨hcarried.rows, ?_, ?_⟩
  · exact fits_rows hnodup label others fun r hr => (hcarried.mem_kept r).mp hr
  · refine fun graph => graph.run?_of_asks (fun s hs => ?_) hcarried.rows
    rw [statements_of_pos hm] at h
    rw [← Except.ok.inj h] at hs
    obtain ⟨slice, hslice, i, hs⟩ := Record.exists_slice hs
    exact NodeBatch.asks (g.isAlphanum_batch_id slice i)
      (fun r hr => hnodup r (Record.mem_of_mem_slices hslice hr)) hlabels hs

theorem together (hrecords : ∀ r ∈ g.records, Json.Proper (.object r))
    (h : g.statements m = .ok statements) :
    ∃ label others said, Statement.Together statements (g.write label others) said := by
  cases hlabels : g.labels with
  | nil =>
    obtain rfl := statements_of_labels_eq_nil hlabels h
    refine ⟨"", [], [], rfl, ?_, fun _ => rfl⟩
    exact fits_rows (l := []) (fun r hr => (hrecords r hr).nodup) "" [] nofun
  | cons label others => exact ⟨label, others, _, together_of_labels hrecords hlabels h⟩

end NodeGroup

namespace RelationshipGroup

variable {g g' : RelationshipGroup} {m : Nat} {statements : List Statement}

def write (g : RelationshipGroup) : Write :=
  (g.batch [] 0).write

theorem write_of_merge (g : RelationshipGroup) (h : g.dedupe = true) :
    g.write = .mergeRelationship (Write.patternOf g.source) (Write.patternOf g.target) g.type := by
  rw [write, RelationshipBatch.write, if_pos (show (g.batch [] 0).dedupe = true from h)]
  rfl

theorem write_of_create (g : RelationshipGroup) (h : g.dedupe = false) :
    g.write = .createRelationship (Write.patternOf g.source) (Write.patternOf g.target) g.type := by
  rw [write, RelationshipBatch.write, if_neg (show ¬(g.batch [] 0).dedupe = true by simp [batch, h])]
  rfl

theorem write_round (g : RelationshipGroup) (p : ListPlace) : (g.round p).write = g.write := by
  rw [round]
  cases p.side <;> rfl

/-- Expansion changes where records hold the endpoints, and not what they are in the graph. -/
theorem write_expand (h : g.expand = .ok g') : g'.write = g.write := by
  refine expand_preserves (P := fun x => x.write = g.write) h rfl fun {x p} hx _ _ _ => ?_
  rw [write_round, hx]

theorem exists_expand (h : g.statements m = .ok statements) :
    0 < m ∧ ∃ g', g.expand = .ok g' := by
  rw [RelationshipGroup.statements, batches] at h
  cases he : g.expand with
  | error cause =>
    rw [he] at h
    cases h
  | ok g' =>
    refine ⟨Nat.pos_of_ne_zero ?_, g', rfl⟩
    rintro rfl
    rw [he] at h
    simp only [Record.chunks_zero] at h
    cases h

theorem fits_rows {l : List Record} (hl : ∀ r ∈ l, g.usable r) : g.write.Fits (l.map g.row) := by
  let ws := l.map fun r =>
    (((r.scalarAt? g.source.recordKey).getD .null, (r.scalarAt? g.target.recordKey).getD .null),
      (g.row r).properties)
  have hrows : l.map g.row = ws.map fun w => ⟨[w.1.1, w.1.2], w.2⟩ := by
    rw [List.map_map]
    refine List.map_congr_left fun r hr => ?_
    obtain ⟨hsource, htarget⟩ := Bool.and_eq_true_iff.mp (hl r hr)
    obtain ⟨v, hv⟩ := Option.isSome_iff_exists.mp hsource
    obtain ⟨w, hw⟩ := Option.isSome_iff_exists.mp htarget
    show (⟨(r.scalarAt? g.source.recordKey).toList ++ (r.scalarAt? g.target.recordKey).toList, _⟩ :
      Row Json) = _
    simp only [Function.comp_apply, hv, hw]
    rfl
  rw [hrows]
  cases hdedupe : g.dedupe with
  | true =>
    rw [g.write_of_merge hdedupe]
    exact .mergeRelationship ws
  | false =>
    rw [g.write_of_create hdedupe]
    exact .createRelationship ws

theorem together (hrecords : ∀ r ∈ g.records, Json.Proper (.object r))
    (h : g.statements m = .ok statements) : ∃ rows, Statement.Together statements g.write rows := by
  obtain ⟨hm, g', hexpand⟩ := exists_expand h
  obtain ⟨_, hsame, hcarried⟩ := exists_statements hm hexpand hrecords
  obtain rfl := Except.ok.inj (hsame.symm.trans h)
  rw [← write_expand hexpand]
  refine ⟨_, hcarried.rows, ?_, ?_⟩
  · exact fits_rows fun r hr => ((hcarried.mem_kept r).mp hr).2
  · refine fun graph => graph.run?_of_asks (fun s hs => ?_) hcarried.rows
    rw [statements_of_expand hm hexpand] at h
    rw [← Except.ok.inj h] at hs
    obtain ⟨slice, hslice, i, hs⟩ := Record.exists_slice hs
    have hslice : ∀ r ∈ slice, r.keys.Nodup := fun r hr =>
      (proper_expand hexpand hrecords r (Record.mem_of_mem_slices hslice hr)).nodup
    exact RelationshipBatch.asks (g'.isAlphanum_batch_id slice i) hslice hs

end RelationshipGroup

/-! ## Groups -/

namespace Group

variable {group : Group} {m : Nat} {statements : List Statement}

/-- What the rows of the group add to a graph if they are created: a node for each row, or a
relationship for each pair of nodes that a row relates. -/
def Adds (group : Group) (g : Graph) (said : List (Row Json)) (added : Graph) : Prop :=
  match group with
  | nodes _ => added.nodes.length = said.length ∧ added.relationships = []
  | relationships r =>
    added.nodes = [] ∧ added.relationships.map (fun x => (x.source, x.target)) =
      said.flatMap (Write.pairs g (Write.patternOf r.source) (Write.patternOf r.target))

theorem together (hrecords : ∀ r ∈ group.records, Json.Proper (.object r))
    (h : group.statements m = .ok statements) :
    ∃ write said, Statement.Together statements write said ∧ write.merges = group.dedupe ∧
      ∀ g added, write.Adds g said added → group.Adds g said added := by
  cases group with
  | nodes x =>
    obtain ⟨label, others, said, htogether⟩ := NodeGroup.together hrecords h
    refine ⟨_, said, htogether, ?_⟩
    cases hdedupe : x.dedupe with
    | true =>
      rw [x.write_of_merge hdedupe]
      exact ⟨hdedupe.symm, nofun⟩
    | false =>
      rw [x.write_of_create hdedupe]
      exact ⟨hdedupe.symm, fun _ _ hadds => hadds⟩
  | relationships x =>
    obtain ⟨said, htogether⟩ := RelationshipGroup.together hrecords h
    refine ⟨_, said, htogether, ?_⟩
    cases hdedupe : x.dedupe with
    | true =>
      rw [x.write_of_merge hdedupe]
      exact ⟨hdedupe.symm, nofun⟩
    | false =>
      rw [x.write_of_create hdedupe]
      exact ⟨hdedupe.symm, fun _ _ hadds => hadds⟩

/-- The statements of a group that is merged leave the graph as it is if they are run again, and none
of them adds anything to it. Those of a group that is created add the same once more, which is what
their rows ask for. -/
theorem replay_statements (hrecords : ∀ r ∈ group.records, Json.Proper (.object r))
    (h : group.statements m = .ok statements) (g : Graph) :
    (group.dedupe = true → ∃ g', g.run? statements = some g' ∧ g'.run? statements = some g' ∧
      ∀ before after, statements = before ++ after → ∃ g'', g'.run? before = some g'' ∧
        g''.nodes.length = g'.nodes.length ∧
        g''.relationships.length = g'.relationships.length) ∧
    (group.dedupe = false → ∃ said added, Statement.rows? statements = some said ∧
      group.Adds g said added ∧ g.run? statements = some (g.add added) ∧
      (g.add added).run? statements = some ((g.add added).add added)) := by
  obtain ⟨write, said, htogether, hmerges, hadds⟩ := together hrecords h
  constructor
  · intro hdedupe
    obtain ⟨g', hrun, hagain⟩ := htogether.fits.foldlM_of_merges (hmerges.trans hdedupe) g
    rw [← htogether.run] at hrun hagain
    refine ⟨g', hrun, hagain, ?_⟩
    rintro before after rfl
    exact Graph.length_of_run?_append hagain
  · intro hdedupe
    obtain ⟨added, hrun, hagain, hadded⟩ :=
      htogether.fits.foldlM_of_creates (hmerges.trans hdedupe) g
    rw [← htogether.run] at hrun hagain
    exact ⟨said, added, htogether.rows, hadds g added hadded, hrun, hagain⟩

/-- Somebody under two names, and somebody else. -/
def people : NodeGroup where
  labels := ["Person", "Member"]
  key := "uid"
  records := [[("name", .string "x"), ("uid", .string "a")],
    [("name", .string "y"), ("uid", .string "a")], [("uid", .string "b")]]
  excludeKeys := []
  dedupe := true

/-- The second run neither adds anybody nor brings back the first name. -/
theorem replay_statements_people :
    ∃ statements g', (nodes people).statements 2 = .ok statements ∧
      (⟨[], []⟩ : Graph).run? statements = some g' ∧ g'.run? statements = some g' ∧
      g' = ⟨[⟨["Member", "Person"], [("name", .string "y"), ("uid", .string "a")]⟩,
        ⟨["Member", "Person"], [("uid", .string "b")]⟩], []⟩ := by
  have hrecords : ∀ r ∈ (nodes people).records, Json.Proper (.object r) := by
    simp [people, records, Json.Proper, Json.everywhere_object_iff, Fields.keys, or_imp, forall_and,
      Json.Everywhere.string]
  have hs := people.statements_of_pos Nat.two_pos
  obtain ⟨g', hrun, hagain, -⟩ := (replay_statements hrecords hs ⟨[], []⟩).1 rfl
  have hrows := (NodeGroup.together_of_labels hrecords rfl hs).run ⟨[], []⟩
  refine ⟨_, g', hs, hrun, hagain, Option.some.inj ?_⟩
  rw [← hrun, hrows]
  decide +kernel

end Group

end GraphLoad
