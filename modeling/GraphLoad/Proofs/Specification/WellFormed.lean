import GraphLoad.Proofs.Specification.Completeness
import GraphLoad.Proofs.Specification.RoundTrip

/-!
# Well-formed statements

A payload that is accepted compiles to well-formed statements, unless a list in it cannot be expanded
(`compile_wellFormed`). What the check says of a group holds still of the expanded group, and of every
batch that is cut from it; and a batch has the records of one slice, so its statement has no more rows.
-/

namespace GraphLoad

open Json (Everywhere Proper)
open Json.Decode (exists_of_mem_sequence sequence)

/-! ## Payloads without repeated keys -/

theorem Json.Everywhere.children {P : Fields → Prop} {j : Json} (h : Everywhere P j) :
    ∀ v ∈ j.children, Everywhere P v := by
  cases h with
  | array hitems => exact hitems
  | object _ hvalues => exact List.forall_mem_map.mpr hvalues
  | null | bool | number | string => exact nofun

theorem Record.proper_of_decode {j : Json} {records : List Record} (hj : Proper j)
    (h : sequence decode j = .ok records) : ∀ r ∈ records, Proper (.object r) := by
  intro r hr
  obtain ⟨v, hv, hdecode⟩ := exists_of_mem_sequence h hr
  cases v with
  | object fields =>
    obtain rfl := Except.ok.inj hdecode
    exact hj.children _ hv
  | null | bool | number | string | array => cases hdecode

theorem NodeGroup.proper_of_decode {j : Json} {g : NodeGroup} (hj : Proper j)
    (h : shape.decode j = .ok g) : ∀ r ∈ g.records, Proper (.object r) := by
  refine Shape.decode_preserves_on (P := fun g => ∀ r ∈ g.records, Proper (.object r))
    (List.forall_mem_nil _) ?_ hj.children h
  simp only [shape, List.forall_mem_cons]
  exact ⟨Part.keepsOn_of fun _ _ _ _ _ h => h, Part.keepsOn_of fun _ _ _ _ _ h => h,
    Part.keepsOn_of fun _ _ _ hj h _ => Record.proper_of_decode hj h,
    Part.keepsOn_of fun _ _ _ _ _ h => h, Part.keepsOn_of fun _ _ _ _ _ h => h, List.forall_mem_nil _⟩

theorem RelationshipGroup.proper_of_decode {j : Json} {g : RelationshipGroup} (hj : Proper j)
    (h : shape.decode j = .ok g) : ∀ r ∈ g.records, Proper (.object r) := by
  refine Shape.decode_preserves_on (P := fun g => ∀ r ∈ g.records, Proper (.object r))
    (List.forall_mem_nil _) ?_ hj.children h
  simp only [shape, List.forall_mem_cons]
  exact ⟨Part.keepsOn_of fun _ _ _ _ _ h => h, Part.keepsOn_of fun _ _ _ _ _ h => h,
    Part.keepsOn_of fun _ _ _ _ _ h => h,
    Part.keepsOn_of fun _ _ _ hj h _ => Record.proper_of_decode hj h,
    Part.keepsOn_of fun _ _ _ _ _ h => h, Part.keepsOn_of fun _ _ _ _ _ h => h,
    Part.keepsOn_of fun _ _ _ _ _ h => h, List.forall_mem_nil _⟩

theorem Specification.proper_of_ofJson {payload : Json} {s : Specification} (hpayload : Json.Proper payload)
    (h : ofJson payload = .ok s) : s.Proper := by
  refine Shape.decode_preserves_on ⟨List.forall_mem_nil _, List.forall_mem_nil _⟩ ?_
    hpayload.children (decode_of_ofJson h).1
  simp only [shape, List.forall_mem_cons]
  refine ⟨Part.keepsOn_of fun _ _ _ hj h hs => ⟨fun g hg => ?_, hs.relationships⟩,
    Part.keepsOn_of fun _ _ _ hj h hs => ⟨hs.nodes, fun g hg => ?_⟩, List.forall_mem_nil _⟩
  · obtain ⟨v, hv, hdecode⟩ := exists_of_mem_sequence h hg
    exact NodeGroup.proper_of_decode (hj.children v hv) hdecode
  · obtain ⟨v, hv, hdecode⟩ := exists_of_mem_sequence h hg
    exact RelationshipGroup.proper_of_decode (hj.children v hv) hdecode

/-! ## Statements -/

/-- There is a row, there are no more rows than allowed, and no label, type or key that is named behind
them is empty. -/
structure Reading.WellFormed (size : Nat) (r : Reading) : Prop where
  nonempty : r.rows ≠ []
  bounded : r.rows.length ≤ size
  named : .name "" ∉ r.clauses

/-- The statement can be read, and what it says is well-formed. -/
def Statement.WellFormed (size : Nat) (s : Statement) : Prop :=
  ∃ r, s.reading? = some r ∧ r.WellFormed size

theorem Cypher.name_not_mem_plain (name text : String) : Lexeme.name name ∉ plain text := by
  simp [plain]

theorem Record.length_filter_candidates_le (dedupe : Bool) (usable : Record → Bool)
    (records : List Record) :
    ((if dedupe then distinct records else records).filter usable).length ≤ records.length :=
  (List.filter_sublist.trans (candidates_sublist dedupe records)).length_le

namespace NodeBatch

variable {b : NodeBatch} {size : Nat}

theorem empty_not_mem_clauseLexemes {label : String} {others : List String}
    (hlabels : "" ∉ label :: others) (hkey : b.key ≠ "") :
    .name "" ∉ b.clauseLexemes label others := by
  obtain ⟨hlabel, hothers⟩ := not_or.mp (mt List.mem_cons.mpr hlabels)
  rw [clauseLexemes]
  split <;> simp [Cypher.name_not_mem_plain, hlabel, hkey.symm, hothers]

theorem wellFormed_statement? (hid : b.id.toList.all Char.isAlphanum)
    (hrecords : ∀ r ∈ b.records, (Fields.keys r).Nodup) (hlabelled : b.labels ≠ [])
    (hlabel : "" ∉ b.labels) (hkey : b.key ≠ "") (hsize : b.records.length ≤ size) {s : Statement}
    (hs : b.statement? = some s) : s.WellFormed size := by
  obtain ⟨label, others, hcons⟩ := List.exists_cons_of_ne_nil hlabelled
  have hne : b.usable ≠ [] := (statement?_eq_none_iff hlabelled).not.mp (hs ▸ Option.some_ne_none s)
  refine ⟨_, reading?_of_statement? hid hrecords hcons hs, ?_, ?_, ?_⟩
  · exact List.map_eq_nil_iff.not.mpr hne
  · rw [List.length_map]
    exact (Record.length_filter_candidates_le _ _ _).trans hsize
  · exact empty_not_mem_clauseLexemes (hcons ▸ hlabel) hkey

end NodeBatch

namespace RelationshipBatch

variable {b : RelationshipBatch} {size : Nat}

theorem empty_not_mem_matchLexemes {e : Endpoint} (he : e.Valid) (variableName position : String) :
    .name "" ∉ matchLexemes variableName e position := by
  have hkey := he.nodeKey.symm
  cases hlabel : e.label with
  | none => simp [matchLexemes, Cypher.name_not_mem_plain, hlabel, hkey]
  | some label =>
    have hne : "" ≠ label := fun h => he.label (h ▸ hlabel)
    simp [matchLexemes, Cypher.name_not_mem_plain, hlabel, hkey, hne]

theorem wellFormed_statement? (hid : b.id.toList.all Char.isAlphanum)
    (hrecords : ∀ r ∈ b.records, (Fields.keys r).Nodup) (htype : b.type ≠ "")
    (hsource : b.source.Valid) (htarget : b.target.Valid) (hsize : b.records.length ≤ size)
    {s : Statement} (hs : b.statement? = some s) : s.WellFormed size := by
  have hne : b.related ≠ [] := statement?_eq_none_iff.not.mp (hs ▸ Option.some_ne_none s)
  refine ⟨_, reading?_of_statement? hid hrecords hs, ?_, ?_, ?_⟩
  · exact List.map_eq_nil_iff.not.mpr hne
  · rw [List.length_map]
    exact (Record.length_filter_candidates_le _ _ _).trans hsize
  · simp [clauseLexemes, Cypher.name_not_mem_plain, empty_not_mem_matchLexemes hsource,
      empty_not_mem_matchLexemes htarget, htype.symm]

end RelationshipBatch

/-! ## Groups -/

variable {m : Nat} {statements : List Statement}

theorem NodeGroup.wellFormed_statements {g : NodeGroup} (hm : 0 < m) (hg : g.Valid)
    (hrecords : ∀ r ∈ g.records, Proper (.object r)) (h : g.statements m = .ok statements) :
    ∀ s ∈ statements, s.WellFormed m := by
  intro s hs
  rw [statements_of_pos hm] at h
  obtain rfl := Except.ok.inj h
  obtain ⟨slice, hslice, i, hs⟩ := Record.exists_slice hs
  exact NodeBatch.wellFormed_statement? (b := g.batch slice i) (g.isAlphanum_batch_id slice i)
    (fun r hr => (hrecords r (Record.mem_of_mem_slices hslice hr)).nodup) hg.labelled hg.label hg.key
    (Record.length_le_of_mem_slices hm hslice) hs

theorem RelationshipGroup.wellFormed_statements {g : RelationshipGroup} (hm : 0 < m) (hg : g.Valid)
    (hrecords : ∀ r ∈ g.records, Proper (.object r)) (h : g.statements m = .ok statements) :
    ∀ s ∈ statements, s.WellFormed m := by
  intro s hs
  cases he : g.expand with
  | error cause =>
    rw [(g.statements_eq_error_iff hm).mpr ⟨cause, he, rfl⟩] at h
    cases h
  | ok g' =>
    rw [statements_of_expand hm he] at h
    obtain rfl := Except.ok.inj h
    obtain ⟨slice, hslice, i, hs⟩ := Record.exists_slice hs
    have hg' := hg.expand he
    exact RelationshipBatch.wellFormed_statement? (b := g'.batch slice i)
      (g'.isAlphanum_batch_id slice i)
      (fun r hr => (proper_expand he hrecords r (Record.mem_of_mem_slices hslice hr)).nodup) hg'.type
      (hg'.endpoint .source) (hg'.endpoint .target) (Record.length_le_of_mem_slices hm hslice) hs

/-! ## Specifications -/

namespace Specification

variable {s : Specification}

theorem mem_groups_iff {g : Group} :
    g ∈ s.groups ↔ (∃ n ∈ s.nodes, .nodes n = g) ∨ ∃ r ∈ s.relationships, .relationships r = g := by
  rw [groups, List.mem_append, List.mem_map, List.mem_map]

/-- A compilation that fails does so in a relationship group that cannot be expanded. -/
theorem exists_of_compile_eq_error (hm : 0 < m) {e : CompileError} (h : s.compile m = .error e) :
    ∃ g ∈ s.relationships, ∃ cause, g.expand = .error cause ∧ e = .expansion cause := by
  have herror : s.groups.mapM (Group.statements m) = .error e := by
    rw [compile] at h
    cases hgroups : s.groups.mapM (Group.statements m) with
    | error e' =>
      rw [hgroups] at h
      exact congrArg _ (Except.error.inj h)
    | ok ofGroups =>
      rw [hgroups] at h
      cases h
  obtain ⟨before, g, after, hsplit, -, hg⟩ := Traversal.mapM_eq_error_iff.mp herror
  have hmem : g ∈ s.groups := by simp [hsplit]
  obtain ⟨n, -, rfl⟩ | ⟨r, hr, rfl⟩ := mem_groups_iff.mp hmem
  · rw [Group.statements, NodeGroup.statements_of_pos hm] at hg
    cases hg
  · exact ⟨r, hr, (r.statements_eq_error_iff hm).mp hg⟩

/-- The statements are those of the groups: none of a group is lost, and none comes from elsewhere. -/
theorem exists_of_compile_eq_ok (h : s.compile m = .ok statements) :
    (∀ g ∈ s.groups, ∃ sts, g.statements m = .ok sts ∧ sts.Sublist statements) ∧
      ∀ statement ∈ statements, ∃ g ∈ s.groups, ∃ sts, g.statements m = .ok sts ∧ statement ∈ sts := by
  obtain ⟨ofGroups, hgroups, rfl⟩ := Traversal.map_eq_ok_iff.mp h
  have hforall := Traversal.mapM_eq_ok_iff.mp hgroups
  constructor
  · intro g hg
    obtain ⟨i, hi, rfl⟩ := List.mem_iff_getElem.mp hg
    have hlt : i < ofGroups.length := hforall.length_eq ▸ hi
    exact ⟨_, hforall.get hi hlt, List.sublist_flatten_of_mem (List.getElem_mem hlt)⟩
  · intro statement hmem
    obtain ⟨sts, hsts, hstatement⟩ := List.mem_flatten.mp hmem
    obtain ⟨i, hi, rfl⟩ := List.mem_iff_getElem.mp hsts
    have hlt : i < s.groups.length := hforall.length_eq ▸ hi
    exact ⟨s.groups[i], List.getElem_mem hlt, _, hforall.get hlt hi, hstatement⟩

/-- A payload that is accepted is compiled to well-formed statements, or fails where a list cannot be
expanded, and in no other way. The statements of every group of nodes are among them, and a batch of nodes
is skipped only if it has no node to write. Any number of rounds of expansion leads to a group that passes
the check. As in every value that is read, no object of the payload has a key twice. -/
theorem compile_wellFormed {payload : Json} (hpayload : Json.Proper payload)
    (h : ofJson payload = .ok s) (hm : 0 < m) :
    (∀ e, s.compile m = .error e →
      ∃ g ∈ s.relationships, ∃ cause, g.expand = .error cause ∧ e = .expansion cause) ∧
    (∀ statements, s.compile m = .ok statements →
      (∀ statement ∈ statements, statement.WellFormed m) ∧
        ∀ g ∈ s.nodes, ∃ sts, g.statements m = .ok sts ∧ sts.Sublist statements) ∧
    (∀ g ∈ s.nodes, g.labels ≠ [] ∧
      ∀ slice i, (g.batch slice i).statement? = none ↔ (g.batch slice i).usable = []) ∧
    ∀ g ∈ s.relationships, ∀ g', Relation.ReflTransGen RelationshipGroup.Round g g' →
      ∀ i, g'.fault? i = none := by
  have hproper := proper_of_ofJson hpayload h
  obtain ⟨hnodes, hrelationships⟩ := validate_eq_ok_iff.mp (decode_of_ofJson h).2
  refine ⟨fun e => exists_of_compile_eq_error hm, ?_, ?_, ?_⟩
  · intro statements hcompile
    obtain ⟨hgroups, hstatements⟩ := exists_of_compile_eq_ok hcompile
    refine ⟨fun statement hmem => ?_, fun n hn => hgroups _ (mem_groups_iff.mpr (.inl ⟨n, hn, rfl⟩))⟩
    obtain ⟨g, hg, sts, hsts, hmem⟩ := hstatements statement hmem
    obtain ⟨n, hn, rfl⟩ | ⟨r, hr, rfl⟩ := mem_groups_iff.mp hg
    · exact n.wellFormed_statements hm (hnodes n hn) (hproper.nodes n hn) hsts statement hmem
    · exact r.wellFormed_statements hm (hrelationships r hr) (hproper.relationships r hr) hsts
        statement hmem
  · intro g hg
    have hlabels := (hnodes g hg).labelled
    exact ⟨hlabels, fun slice i => NodeBatch.statement?_eq_none_iff (b := g.batch slice i) hlabels⟩
  · intro g hg g' hrounds i
    exact RelationshipGroup.fault?_eq_none_iff.mpr ((hrelationships g hg).rounds hrounds)

/-- A person and three others whom that person knows. -/
def acquaintances : Json := .object [
  ("nodes", .array [.array [.strings ["Person"], .string "uid",
    .array [.object [("uid", .string "a")]]]]),
  ("relationships", .array [.object [
    ("from", .array [.null, .string "uid", .string "from"]),
    ("records", .array [.object [("from", .string "a"), ("to", .array [.object [("uid", .string "b")],
      .object [("uid", .string "c")], .object [("uid", .string "d")]])]]),
    ("to", .array [.string "Person", .string "uid", .string "to.uid"]),
    ("type", .string "KNOWS")]])]

/-- The relationships among them. -/
def acquaintance : RelationshipGroup :=
  ⟨"KNOWS", ⟨none, "uid", "from"⟩, ⟨some "Person", "uid", "to.uid"⟩, [[("from", .string "a"),
    ("to", .array [.object [("uid", .string "b")], .object [("uid", .string "c")],
      .object [("uid", .string "d")]])]], [], true, true⟩

/-- What they are given as. -/
def acquainted : Specification :=
  ⟨[⟨["Person"], "uid", [[("uid", .string "a")]], [], true⟩], [acquaintance]⟩

/-- In slices of two there is one statement for the node and there are two for the relationships, which
are three behind the only round. -/
theorem compile_wellFormed_acquaintances :
    ofJson acquaintances = .ok acquainted ∧
      (∃ statements, acquainted.compile 2 = .ok statements ∧ statements.length = 3 ∧
        ∀ statement ∈ statements, statement.WellFormed 2) ∧
      ∃ g', acquaintance.Round g' ∧ g'.records.length = 3 ∧ g'.fault? 0 = none := by
  have hpayload : Json.Proper acquaintances := by
    simp [acquaintances, Json.Proper, Json.everywhere_object_iff, Json.everywhere_array_iff, Fields.keys,
      Json.strings, Json.Everywhere.string, Json.Everywhere.null]
  have hspec : ofJson acquaintances = .ok acquainted := rfl
  obtain ⟨-, hstatements, -, hrounds⟩ := compile_wellFormed hpayload hspec (m := 2) (by decide)
  refine ⟨hspec, ?_, ?_⟩
  · have hlength : (acquainted.compile 2).toOption.map List.length = some 3 := by decide +kernel
    cases hcompile : acquainted.compile 2 with
    | error e =>
      rw [hcompile] at hlength
      cases hlength
    | ok statements =>
      rw [hcompile] at hlength
      exact ⟨statements, rfl, Option.some.inj hlength, (hstatements statements hcompile).1⟩
  · have hround : acquaintance.Round (acquaintance.round ⟨.target, "to", "uid"⟩) :=
      ⟨_, rfl, RelationshipGroup.expandAt_eq_ok_iff.mpr ⟨by decide, by decide +kernel, rfl⟩⟩
    exact ⟨_, hround, by decide +kernel, hrounds acquaintance List.mem_cons_self _ (.single hround) 0⟩

end Specification
end GraphLoad
