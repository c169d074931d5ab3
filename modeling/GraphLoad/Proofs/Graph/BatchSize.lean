import GraphLoad.Proofs.Graph.Replay
import GraphLoad.Proofs.Record.Distinct

/-!
# What the batch size changes

The records of a batch are written one over another, and a record that is repeated in the batch is
written where it stands first. So a record that is given again, after one that it overrides, has the
last word if it stands in a batch of its own, and loses it if both stand in one batch
(`NodeGroup.Overtaken`). Nothing else depends on the batch size (`NodeGroup.leaves_same`).
-/

namespace GraphLoad

namespace Record

/-! ## The last value -/

variable {f : Record → Option Json} {records a b c : List Record} {s : Record}

def last? (f : Record → Option Json) (records : List Record) : Option Json :=
  (records.filterMap f).getLast?

theorem last?_append (f : Record → Option Json) (a b : List Record) :
    last? f (a ++ b) = (last? f b).or (last? f a) := by
  rw [last?, List.filterMap_append, List.getLast?_append]
  rfl

theorem last?_singleton (f : Record → Option Json) (s : Record) : last? f [s] = f s := by
  rw [last?]
  cases hs : f s <;> simp [hs]

theorem last?_eq_none_iff : last? f records = none ↔ ∀ t ∈ records, f t = none := by
  rw [last?, List.getLast?_eq_none_iff, List.filterMap_eq_nil_iff]

theorem last?_append_of_none (h : ∀ t ∈ b, f t = none) : last? f (a ++ b) = last? f a := by
  rw [last?_append, last?_eq_none_iff.mpr h, Option.none_or]

theorem exists_last?_eq_some {y : Json} (h : last? f records = some y) :
    ∃ a r b, records = a ++ r :: b ∧ f r = some y ∧ ∀ t ∈ b, f t = none := by
  induction records using List.reverseRecOn with
  | nil => cases h
  | append_singleton records t ih =>
    rw [last?_append, last?_singleton] at h
    cases ht : f t with
    | some x =>
      rw [ht] at h
      exact ⟨records, t, [], rfl, ht.trans h, nofun⟩
    | none =>
      rw [ht] at h
      obtain ⟨a, r, b, rfl, hr, hb⟩ := ih h
      refine ⟨a, r, b ++ [t], by rw [List.append_assoc, List.cons_append], hr, ?_⟩
      intro u hu
      rcases List.mem_append.mp hu with hu | hu
      · exact hb u hu
      · rwa [List.mem_singleton.mp hu]

/-! ## Repeated records -/

/-- Of the records that give a value, `s` is the last to come up: it does not stand in `a`, and those
in `c` are all repeated. -/
structure LastNew (f : Record → Option Json) (a : List Record) (s : Record) (c : List Record) :
    Prop where
  gives : f s ≠ none
  not_mem : s ∉ a
  repeated : ∀ t ∈ c, f t ≠ none → t ∈ a ∨ t = s

/-- Once repeated records are dropped, the last record to come up gives the last value. -/
theorem LastNew.last?_distinct (h : LastNew f a s c) : last? f (distinct (a ++ s :: c)) = f s := by
  induction c using List.reverseRecOn with
  | nil =>
    rw [distinct_append_singleton, if_neg h.not_mem, last?_append, last?_singleton,
      Option.or_of_isSome (Option.ne_none_iff_isSome.mp h.gives)]
  | append_singleton c t ih =>
    have hbefore : LastNew f a s c :=
      ⟨h.gives, h.not_mem, fun u hu => h.repeated u (List.mem_append_left _ hu)⟩
    rw [← List.cons_append, ← List.append_assoc, distinct_append_singleton]
    split
    · exact ih hbefore
    · rename_i hnew
      have ht : f t = none := by
        by_contra hne
        refine hnew (List.mem_append.mpr ?_)
        rcases h.repeated t (List.mem_append_right _ List.mem_cons_self) hne with ha | rfl
        · exact .inl ha
        · exact .inr List.mem_cons_self
      rw [last?_append_of_none (by simpa using ht), ih hbefore]

theorem exists_lastNew (h : last? f records ≠ none) :
    ∃ a s c, records = a ++ s :: c ∧ LastNew f a s c := by
  induction records using List.reverseRecOn with
  | nil => exact absurd rfl h
  | append_singleton records t ih =>
    by_cases hnew : t ∉ records ∧ f t ≠ none
    · exact ⟨records, t, [], rfl, hnew.2, hnew.1, nofun⟩
    · have ht : f t ≠ none → t ∈ records := fun hne =>
        by_contra fun hmem => hnew ⟨hmem, hne⟩
      have hrecords : last? f records ≠ none := by
        intro hnone
        have hall := last?_eq_none_iff.mp hnone
        rw [last?_append, hnone, last?_singleton, Option.or_none] at h
        exact h (hall t (ht h))
      obtain ⟨a, s, c, rfl, hlast⟩ := ih hrecords
      refine ⟨a, s, c ++ [t], by rw [List.append_assoc, List.cons_append], hlast.gives,
        hlast.not_mem, ?_⟩
      intro u hu hne
      rcases List.mem_append.mp hu with hu | hu
      · exact hlast.repeated u hu hne
      · obtain rfl := List.mem_singleton.mp hu
        rcases List.mem_append.mp (ht hne) with ha | hs
        · exact .inl ha
        · rcases List.mem_cons.mp hs with rfl | hc
          · exact .inr rfl
          · exact hlast.repeated u hc hne

/-! ## Slices -/

/-- In the last slice that gives a value, the last record to come up gives another one than a record
behind it, which is dropped there because it came up before. -/
def Overtaken (f : Record → Option Json) (slices : List (List Record)) : Prop :=
  ∃ before a s c after, slices = before ++ (a ++ s :: c) :: after ∧
    (∀ slice ∈ after, ∀ t ∈ slice, f t = none) ∧ LastNew f a s c ∧
      ∃ y, last? f c = some y ∧ f s ≠ some y

theorem exists_last_slice {slices : List (List Record)} (h : last? f slices.flatten ≠ none) :
    ∃ before slice after, slices = before ++ slice :: after ∧ last? f slice ≠ none ∧
      ∀ l ∈ after, ∀ t ∈ l, f t = none := by
  induction slices using List.reverseRecOn with
  | nil => exact absurd rfl h
  | append_singleton slices slice ih =>
    cases hslice : last? f slice with
    | some x => exact ⟨slices, slice, [], rfl, by rw [hslice]; nofun, nofun⟩
    | none =>
      have hnone := last?_eq_none_iff.mp hslice
      rw [List.flatten_append, List.flatten_singleton, last?_append_of_none hnone] at h
      obtain ⟨before, l, after, rfl, hl, hafter⟩ := ih h
      refine ⟨before, l, after ++ [slice], by rw [List.append_assoc, List.cons_append], hl, ?_⟩
      intro k hk
      rcases List.mem_append.mp hk with hk | hk
      · exact hafter k hk
      · rwa [List.mem_singleton.mp hk]

theorem last?_flatMap {keep : List Record → List Record} (hkeep : ∀ l, ∀ t ∈ keep l, t ∈ l)
    {before after : List (List Record)} {slice : List Record} (hslice : last? f (keep slice) ≠ none)
    (hafter : ∀ l ∈ after, ∀ t ∈ l, f t = none) :
    last? f ((before ++ slice :: after).flatMap keep) = last? f (keep slice) := by
  have hnone : ∀ t ∈ after.flatMap keep, f t = none := by
    intro t ht
    obtain ⟨l, hl, hmem⟩ := List.mem_flatMap.mp ht
    exact hafter l hl t (hkeep l t hmem)
  rw [List.flatMap_append, List.flatMap_cons, ← List.append_assoc, last?_append_of_none hnone,
    last?_append, Option.or_of_isSome (Option.ne_none_iff_isSome.mp hslice)]

/-- Dropping repeated records slice by slice leaves the last value, unless it is overtaken. -/
theorem last?_flatMap_distinct_eq_iff (f : Record → Option Json) (slices : List (List Record)) :
    last? f (slices.flatMap distinct) = last? f slices.flatten ↔ ¬Overtaken f slices := by
  have hdistinct : ∀ l : List Record, ∀ t ∈ distinct l, t ∈ l := fun _ _ => mem_distinct.mp
  have hid : ∀ l : List Record, ∀ t ∈ id l, t ∈ l := fun _ _ ht => ht
  rw [← List.flatMap_id]
  constructor
  · rintro heq ⟨before, a, s, c, after, rfl, hafter, hlast, y, hy, hne⟩
    have hnew := hlast.last?_distinct
    have hgiven : last? f (id (a ++ s :: c)) = some y := by
      rw [id, List.append_cons, last?_append, hy, Option.some_or]
    rw [last?_flatMap hdistinct (hnew ▸ hlast.gives) hafter, hnew,
      last?_flatMap hid (by rw [hgiven]; nofun) hafter, hgiven] at heq
    exact hne heq
  · intro hnot
    by_cases hnone : last? f (slices.flatMap id) = none
    · rw [hnone, last?_eq_none_iff]
      intro t ht
      obtain ⟨l, hl, hmem⟩ := List.mem_flatMap.mp ht
      exact last?_eq_none_iff.mp hnone t (List.mem_flatMap.mpr ⟨l, hl, hdistinct l t hmem⟩)
    · rw [List.flatMap_id] at hnone
      obtain ⟨before, slice, after, rfl, hslice, hafter⟩ := exists_last_slice hnone
      obtain ⟨a, s, c, rfl, hlast⟩ := exists_lastNew hslice
      have hnew := hlast.last?_distinct
      rw [last?_flatMap hdistinct (hnew ▸ hlast.gives) hafter, hnew,
        last?_flatMap hid hslice hafter, id, List.append_cons, last?_append]
      cases hc : last? f c with
      | none =>
        rw [Option.none_or, last?_append, last?_singleton,
          Option.or_of_isSome (Option.ne_none_iff_isSome.mp hlast.gives)]
      | some y =>
        rw [Option.some_or]
        by_contra hne
        exact hnot ⟨before, a, s, c, after, rfl, hafter, hlast, y, hc, hne⟩

/-- Nothing is overtaken if between two equal records, of which the later gives the last value, no
record gives another value. -/
theorem not_overtaken {slices : List (List Record)}
    (h : ∀ a r b c, slices.flatten = a ++ r :: b ++ r :: c → f r ≠ none → (∀ t ∈ c, f t = none) →
      ∀ t ∈ b, f t = none ∨ f t = f r) : ¬Overtaken f slices := by
  rintro ⟨before, a, s, c, after, rfl, hafter, hlast, y, hy, hne⟩
  obtain ⟨d, r, e, rfl, hr, he⟩ := exists_last?_eq_some hy
  have hgives : f r ≠ none := by
    rw [hr]
    nofun
  -- the record that gives the last value stands before `s` too
  have hmem : r ∈ a := by
    refine (hlast.repeated r (List.mem_append_right _ List.mem_cons_self) hgives).resolve_right ?_
    rintro rfl
    exact hne hr
  obtain ⟨a₁, a₂, rfl⟩ := List.append_of_mem hmem
  have hflatten : (before ++ (a₁ ++ r :: a₂ ++ s :: (d ++ r :: e)) :: after).flatten =
      before.flatten ++ a₁ ++ r :: (a₂ ++ s :: d) ++ r :: (e ++ after.flatten) := by
    simp
  have hrest : ∀ t ∈ e ++ after.flatten, f t = none := by
    intro t ht
    rcases List.mem_append.mp ht with ht | ht
    · exact he t ht
    · obtain ⟨l, hl, hmem⟩ := List.mem_flatten.mp ht
      exact hafter l hl t hmem
  rcases h _ r _ _ hflatten hgives hrest s (List.mem_append_right _ List.mem_cons_self) with hs | hs
  · exact hlast.gives hs
  · exact hne (hs.trans hr)

theorem slices_one (records : List Record) : slices 1 records = records.map ([·]) := by
  induction records with
  | nil => rw [slices, List.map_nil]
  | cons r records ih => rw [slices, Nat.sub_self, List.take_zero, List.drop_zero, ih, List.map_cons]

theorem not_overtaken_one (f : Record → Option Json) (records : List Record) :
    ¬Overtaken f (slices 1 records) := by
  rintro ⟨before, a, s, c, after, hslices, -, -, y, hy, -⟩
  rw [slices_one] at hslices
  have hmem : a ++ s :: c ∈ records.map ([·]) := by
    rw [hslices]
    exact List.mem_append_right _ List.mem_cons_self
  obtain ⟨r, -, hr⟩ : ∃ r, r ∈ records ∧ [r] = a ++ s :: c := List.mem_map.mp hmem
  have hc : c = [] := by
    cases a with
    | nil => exact (List.cons.inj hr).2.symm
    | cons t a => exact absurd (List.cons.inj hr).2.symm (List.append_ne_nil_of_right_ne_nil _ nofun)
  rw [hc] at hy
  cases hy

end Record

/-! ## Groups of nodes -/

/-- The value that a row assigns to a property of the node with this key value. -/
def Row.assigned? (v : Json) (p : String) (row : Row Json) : Option Json :=
  if row.ends = [v] then Fields.get? row.properties p else none

namespace NodeGroup

variable {g : NodeGroup} {m : Nat} {v : Json} {p : String} {x : Option Json}

/-- With this batch size the statements of the group assign the value last, if any, to the property of
the node with this key value. -/
def Leaves (g : NodeGroup) (m : Nat) (v : Json) (p : String) (x : Option Json) : Prop :=
  ∃ statements rows, g.statements m = .ok statements ∧ Statement.rows? statements = some rows ∧
    (rows.filterMap (Row.assigned? v p)).getLast? = x

/-- The value that a record gives to the property of the node with this key value. -/
def gives? (g : NodeGroup) (v : Json) (p : String) (r : Record) : Option Json :=
  if g.labels ≠ [] ∧ g.usable r then (g.row r).assigned? v p else none

/-- With this batch size the last value that the records give does not come through: in its slice the
record that gives it is taken for a repeated one, and another record is written last. -/
def Overtaken (g : NodeGroup) (m : Nat) (v : Json) (p : String) : Prop :=
  Record.Overtaken (g.gives? v p) (Record.slices m g.records)

theorem filterMap_assigned?_kept (hlabels : g.labels ≠ []) (hdedupe : g.dedupe = true) :
    ((Record.kept m g.dedupe g.usable g.records).map g.row).filterMap (Row.assigned? v p) =
      ((Record.slices m g.records).flatMap Record.distinct).filterMap (g.gives? v p) := by
  rw [List.filterMap_map, Record.kept, List.filterMap_flatMap, List.filterMap_flatMap]
  congr 1
  funext slice
  rw [if_pos hdedupe, ← List.filterMap_eq_filter, List.filterMap_filterMap]
  congr 1
  funext r
  cases hr : g.usable r <;> simp [gives?, hr, hlabels, Option.guard]

theorem get?_reverse_flatMap {ws : List (Json × Fields)} (hn : ∀ w ∈ ws, (Fields.keys w.2).Nodup) :
    Fields.get? ((ws.filter (·.1 = v)).flatMap Prod.snd).reverse p =
      ((ws.map fun w => (⟨[w.1], w.2⟩ : Row Json)).filterMap (Row.assigned? v p)).getLast? := by
  induction ws with
  | nil => rfl
  | cons w ws ih =>
    obtain ⟨hw, hws⟩ := List.forall_mem_cons.mp hn
    rw [List.map_cons, List.filterMap_cons]
    by_cases hv : w.1 = v
    · have hassigned : Row.assigned? v p ⟨[w.1], w.2⟩ = Fields.get? w.2 p := if_pos (by rw [hv])
      rw [List.filter_cons_of_pos (by simpa using hv), List.flatMap_cons, List.reverse_append,
        Fields.get?_append, Fields.get?_reverse hw, ih hws, hassigned]
      cases Fields.get? w.2 p with
      | none => rw [Option.or_none]
      | some y => rw [Option.or_some, List.getLast?_cons]
    · have hassigned : Row.assigned? v p ⟨[w.1], w.2⟩ = none :=
        if_neg fun h => hv (List.cons.inj h).1
      rw [List.filter_cons_of_neg (by simpa using hv), ih hws, hassigned]

/-- The value is in the graph: behind the statements every node with the key value has it. -/
theorem get?_of_leaves {label : String} {others : List String} {x : Json}
    {statements : List Statement} {graph graph' : Graph} (hdedupe : g.dedupe = true)
    (hrecords : ∀ r ∈ g.records, Json.Proper (.object r)) (hlabels : g.labels = label :: others)
    (hleaves : g.Leaves m v p (some x)) (hs : g.statements m = .ok statements)
    (hrun : graph.run? statements = some graph') :
    ∀ n ∈ graph'.nodes, Graph.Pattern.value? ⟨some label, g.key⟩ n = some v →
      Fields.get? n.properties p = some x := by
  have htogether := together_of_labels hrecords hlabels hs
  rw [g.write_of_merge hdedupe] at htogether
  obtain ⟨ws, hws, hfits⟩ := htogether.fits.exists_of_mergeNode
  obtain ⟨_, rows, hs', hrows, hx⟩ := hleaves
  obtain rfl := Except.ok.inj (hs'.symm.trans hs)
  obtain rfl := Option.some.inj (hrows.symm.trans htogether.rows)
  rw [htogether.run, hws, Write.foldlM_mergeNode] at hrun
  obtain rfl := Option.some.inj hrun
  have hnodup : ∀ w ∈ ws, (Fields.keys w.2).Nodup := by
    intro w hw
    have hrow : (⟨[w.1], w.2⟩ : Row Json) ∈ (Record.kept m g.dedupe g.usable g.records).map g.row :=
      hws ▸ List.mem_map_of_mem hw
    obtain ⟨r, hr, heq⟩ := List.mem_map.mp hrow
    have hproperties : w.2 = Property.of (g.batch [] 0).excluded r := by
      rw [← NodeBatch.properties_row, g.row_batch, heq]
    rw [hproperties]
    exact Property.nodup_keys_of (hrecords r (Record.mem_kept_iff.mp hr).1).nodup
  refine Graph.get?_of_mem_run_merging hfits ?_
  rw [get?_reverse_flatMap hnodup, ← hws, hx]

theorem leaves_iff (hm : 0 < m) (hdedupe : g.dedupe = true)
    (hrecords : ∀ r ∈ g.records, Json.Proper (.object r)) :
    g.Leaves m v p x ↔
      x = Record.last? (g.gives? v p) ((Record.slices m g.records).flatMap Record.distinct) := by
  by_cases hlabels : g.labels = []
  · have hnone : ∀ l, Record.last? (g.gives? v p) l = none := fun l =>
      Record.last?_eq_none_iff.mpr fun t _ => if_neg fun h => h.1 hlabels
    have hs := statements_of_pos hm g
    have hnil := statements_of_labels_eq_nil hlabels hs
    rw [hnil] at hs
    rw [hnone, Leaves, hs]
    constructor
    · rintro ⟨_, rows, hstatements, hrows, rfl⟩
      obtain rfl := Except.ok.inj hstatements
      obtain rfl := Option.some.inj hrows
      rfl
    · rintro rfl
      exact ⟨[], [], rfl, rfl, rfl⟩
  · obtain ⟨statements, hs, hcarried⟩ := exists_statements hm hlabels hrecords
    rw [Leaves, hs, Record.last?, ← filterMap_assigned?_kept hlabels hdedupe]
    constructor
    · rintro ⟨_, rows, hstatements, hrows, rfl⟩
      obtain rfl := Except.ok.inj hstatements
      rw [Option.some.inj (hrows.symm.trans hcarried.rows)]
    · rintro rfl
      exact ⟨statements, _, rfl, hcarried.rows, rfl⟩

theorem pos_of_leaves (h : g.Leaves m v p x) : 0 < m := by
  obtain ⟨statements, _, hs, -⟩ := h
  exact pos_of_statements hs

/-- The value that is left for a batch size is the last one that the records give if and only if it is
not overtaken. -/
theorem leaves_last_iff (hm : 0 < m) (hdedupe : g.dedupe = true)
    (hrecords : ∀ r ∈ g.records, Json.Proper (.object r)) :
    g.Leaves m v p (Record.last? (g.gives? v p) g.records) ↔ ¬g.Overtaken m v p := by
  rw [leaves_iff hm hdedupe hrecords, Overtaken, ← Record.last?_flatMap_distinct_eq_iff,
    Record.flatten_slices, eq_comm]

/-- For two batch sizes the statements of a merged group leave the same value, unless one of the two
lets the last value be overtaken. So they leave the same for all batch sizes if and only if none lets
it be overtaken. -/
theorem leaves_same (hdedupe : g.dedupe = true)
    (hrecords : ∀ r ∈ g.records, Json.Proper (.object r)) (v : Json) (p : String) :
    (∀ m, 0 < m → ∃ x, g.Leaves m v p x) ∧
    (∀ m₁ m₂ x₁ x₂, ¬g.Overtaken m₁ v p → ¬g.Overtaken m₂ v p → g.Leaves m₁ v p x₁ →
      g.Leaves m₂ v p x₂ → x₁ = x₂) ∧
    ((∀ m₁ m₂ x₁ x₂, g.Leaves m₁ v p x₁ → g.Leaves m₂ v p x₂ → x₁ = x₂) ↔
      ∀ m, 0 < m → ¬g.Overtaken m v p) := by
  have hlast : ∀ m x, ¬g.Overtaken m v p → g.Leaves m v p x →
      x = Record.last? (g.gives? v p) g.records := by
    intro m x hnot hx
    have hm := pos_of_leaves hx
    rw [(leaves_iff hm hdedupe hrecords).mp hx]
    exact ((leaves_iff hm hdedupe hrecords).mp
      ((leaves_last_iff hm hdedupe hrecords).mpr hnot)).symm
  refine ⟨?_, ?_, ?_, ?_⟩
  · intro m hm
    exact ⟨_, (leaves_iff hm hdedupe hrecords).mpr rfl⟩
  · intro m₁ m₂ x₁ x₂ h₁ h₂ hx₁ hx₂
    rw [hlast m₁ x₁ h₁ hx₁, hlast m₂ x₂ h₂ hx₂]
  · intro hsame m hm
    rw [← leaves_last_iff hm hdedupe hrecords]
    have hone := (leaves_last_iff Nat.one_pos hdedupe hrecords).mpr
      (Record.not_overtaken_one (g.gives? v p) g.records)
    have hx := (leaves_iff (v := v) (p := p) hm hdedupe hrecords).mpr rfl
    rwa [← hsame m 1 _ _ hx hone]
  · intro hnot m₁ m₂ x₁ x₂ hx₁ hx₂
    rw [hlast m₁ x₁ (hnot m₁ (pos_of_leaves hx₁)) hx₁, hlast m₂ x₂ (hnot m₂ (pos_of_leaves hx₂)) hx₂]

/-- Records that give one person these names, one after another. -/
def naming (names : List String) : NodeGroup where
  labels := ["Person"]
  key := "uid"
  records := names.map fun name => [("name", .string name), ("uid", .string "a")]
  excludeKeys := []
  dedupe := true

theorem proper_naming (names : List String) :
    ∀ r ∈ (naming names).records, Json.Proper (.object r) := by
  intro r hr
  obtain ⟨name, -, rfl⟩ := List.mem_map.mp hr
  simp [Json.Proper, Json.everywhere_object_iff, Fields.keys, or_imp, forall_and,
    Json.Everywhere.string]

/-- A name given twice is not in the way of one that is given after that. -/
theorem leaves_same_name :
    ∃ x₁ x₂, (naming ["x", "x", "y"]).Leaves 1 (.string "a") "name" x₁ ∧
      (naming ["x", "x", "y"]).Leaves 3 (.string "a") "name" x₂ ∧ x₁ = x₂ := by
  obtain ⟨hleaves, hsame, -⟩ := leaves_same rfl (proper_naming ["x", "x", "y"]) (.string "a") "name"
  have hnot : ∀ m, ¬(naming ["x", "x", "y"]).Overtaken m (.string "a") "name" := by
    intro m
    refine Record.not_overtaken fun a r b c hflatten _ hc => ?_
    rw [Record.flatten_slices] at hflatten
    -- the last record of all gives a name, and no other is equal to it
    have hgives : ∀ t ∈ (naming ["x", "x", "y"]).records,
        (naming ["x", "x", "y"]).gives? (.string "a") "name" t ≠ none := by decide +kernel
    obtain rfl : c = [] := List.eq_nil_iff_forall_not_mem.mpr fun t ht =>
      hgives t (hflatten ▸ List.mem_append_right _ (List.mem_cons_of_mem _ ht)) (hc t ht)
    have hsplit : (naming ["x", "x"]).records ++ (naming ["y"]).records = (a ++ r :: b) ++ [r] :=
      hflatten
    obtain ⟨hrest, hr⟩ := List.append_inj' hsplit rfl
    have hmem : r ∈ (naming ["x", "x"]).records := by
      rw [hrest]
      exact List.mem_append_right _ List.mem_cons_self
    rw [← (List.cons.inj hr).1] at hmem
    exact absurd hmem (by decide)
  obtain ⟨x₁, h₁⟩ := hleaves 1 (by decide)
  obtain ⟨x₂, h₂⟩ := hleaves 3 (by decide)
  exact ⟨x₁, x₂, h₁, h₂, hsame 1 3 x₁ x₂ (hnot 1) (hnot 3) h₁ h₂⟩

/-- A name given before and after another one stays only if it gets a batch of its own. -/
theorem leaves_differ :
    ¬∀ (g : NodeGroup) (m₁ m₂ : Nat) (v : Json) (p : String) (x₁ x₂ : Option Json),
      g.dedupe = true → (∀ r ∈ g.records, Json.Proper (.object r)) → 0 < m₁ → 0 < m₂ →
      g.Leaves m₁ v p x₁ → g.Leaves m₂ v p x₂ → x₁ = x₂ := by
  intro h
  have hproper := proper_naming ["x", "y", "x"]
  have hone : (naming ["x", "y", "x"]).Leaves 1 (.string "a") "name" (some (.string "x")) :=
    (leaves_iff (by decide) rfl hproper).mpr (by decide +kernel)
  have hthree : (naming ["x", "y", "x"]).Leaves 3 (.string "a") "name" (some (.string "y")) :=
    (leaves_iff (by decide) rfl hproper).mpr (by decide +kernel)
  have heq := h _ 1 3 _ _ _ _ rfl hproper (by decide) (by decide) hone hthree
  exact absurd heq (by decide)

end NodeGroup
end GraphLoad
