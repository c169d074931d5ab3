import GraphLoad.Proofs.Record.Endpoint

/-!
# Where a walk first lands on a list

The search for a list on a path stops at the shortest prefix of the path, made of whole segments, at which a
lookup finds a list (`firstListPrefix_eq_some_iff`), and finds none exactly if there is no such prefix
(`firstListPrefix_eq_none_iff`).
-/

namespace GraphLoad

/-- A lookup finds a list at the path. -/
def Record.HoldsList (r : Record) (path : String) : Prop :=
  ∃ items, Path.resolveIn path r = some (.array items)

namespace Path

/-! ## Prefixes made of whole segments -/

/-- The path itself, or what precedes one of its dots. -/
def WholePrefix (q path : String) : Prop :=
  q = path ∨ ∃ rest, path = q ++ "." ++ rest

theorem join_append {a b : List String} (ha : a ≠ []) (hb : b ≠ []) :
    join (a ++ b) = join a ++ "." ++ join b :=
  String.intercalate_append_of_ne_nil ha hb

theorem segments_append_dot (a b : String) :
    segments (a ++ "." ++ b) = segments a ++ segments b := by
  have hjoin : a ++ "." ++ b = join (segments a ++ segments b) := by
    rw [join_append (segments_ne_nil a) (segments_ne_nil b), join_segments, join_segments]
  have hne : segments a ++ segments b ≠ [] := List.append_ne_nil_of_left_ne_nil (segments_ne_nil a) _
  rw [hjoin, segments_join hne]
  intro s hs
  rcases List.mem_append.mp hs with hs | hs <;> exact dot_not_mem_segments hs

variable {path q q' : String}

theorem wholePrefix_iff : WholePrefix q path ↔ segments q <+: segments path := by
  constructor
  · rintro (rfl | ⟨rest, rfl⟩)
    · exact List.prefix_rfl
    · rw [segments_append_dot]
      exact List.prefix_append _ _
  · rintro ⟨after, hafter⟩
    have hpath : path = join (segments q ++ after) := by rw [hafter, join_segments]
    cases after with
    | nil =>
      rw [List.append_nil, join_segments] at hpath
      exact .inl hpath.symm
    | cons s o =>
      rw [join_append (segments_ne_nil q) (List.cons_ne_nil s o), join_segments] at hpath
      exact .inr ⟨_, hpath⟩

theorem WholePrefix.length_le (h : WholePrefix q path) : q.length ≤ path.length := by
  rcases h with rfl | ⟨rest, rfl⟩
  · exact Nat.le_refl _
  · rw [String.length_append, String.length_append]
    omega

theorem WholePrefix.eq_of_length_le (h : WholePrefix q path) (hle : path.length ≤ q.length) :
    q = path := by
  refine h.resolve_right ?_
  rintro ⟨rest, rfl⟩
  rw [String.length_append, String.length_append] at hle
  have hdot : ".".length = 1 := rfl
  omega

/-! ## The first list -/

variable {segs before after pre : List String} {s : String} {j : Json} {items : List Json}

theorem isArray_iff : j.isArray = true ↔ ∃ items, j = .array items := by
  cases j <;> simp [Json.isArray]

/-- The search takes a segment, and stops there if it leads to an array. -/
theorem firstList_cons_eq_some_iff {r : List String} :
    firstList (s :: r) j = some (before, after) ↔
      ∃ v, child? s j = some v ∧ (v.isArray = true ∧ before = [s] ∧ after = r ∨
        v.isArray = false ∧ ∃ b, before = s :: b ∧ firstList r v = some (b, after)) := by
  rw [firstList]
  cases child? s j with
  | none =>
    refine iff_of_false (Option.some_ne_none (before, after)).symm ?_
    rintro ⟨v, hv, -⟩
    cases hv
  | some v =>
    simp only [Option.some.injEq, exists_eq_left']
    cases v.isArray with
    | true => simp [eq_comm]
    | false =>
      rw [if_neg Bool.false_ne_true, Option.map_eq_some_iff]
      constructor
      · rintro ⟨⟨b, a⟩, hb, he⟩
        obtain ⟨rfl, rfl⟩ := Prod.mk.inj he
        exact .inr ⟨rfl, b, rfl, hb⟩
      · rintro (⟨h, -⟩ | ⟨-, b, rfl, hb⟩)
        · cases h
        · exact ⟨(b, after), hb, rfl⟩

theorem exists_items_of_firstList (h : firstList segs j = some (before, after)) :
    ∃ items, walk before j = some (.array items) := by
  induction segs generalizing before j with
  | nil => cases h
  | cons s r ih =>
    obtain ⟨v, hv, ⟨harray, rfl, rfl⟩ | ⟨-, b, rfl, hb⟩⟩ := firstList_cons_eq_some_iff.mp h
    · obtain ⟨items, rfl⟩ := isArray_iff.mp harray
      exact ⟨items, by rw [walk, hv]; rfl⟩
    · obtain ⟨items, hwalk⟩ := ih hb
      exact ⟨items, by rw [walk, hv]; exact hwalk⟩

/-- The search stops no later than any array on the way. -/
theorem prefix_of_firstList (h : firstList segs j = some (before, after)) (hne : pre ≠ [])
    (hpre : pre <+: segs) (hwalk : walk pre j = some (.array items)) : before <+: pre := by
  induction segs generalizing before pre j with
  | nil => cases h
  | cons s r ih =>
    obtain ⟨t, others, rfl⟩ := List.exists_cons_of_ne_nil hne
    obtain ⟨rfl, hothers⟩ := List.cons_prefix_cons.mp hpre
    obtain ⟨v, hv, ⟨-, rfl, rfl⟩ | ⟨harray, b, rfl, hb⟩⟩ := firstList_cons_eq_some_iff.mp h
    · exact ⟨others, rfl⟩
    · rw [walk, hv, Option.bind_some] at hwalk
      have hothers' : others ≠ [] := by
        rintro rfl
        obtain rfl := Option.some.inj hwalk
        cases harray
      exact List.cons_prefix_cons.mpr ⟨rfl, ih hb hothers' hothers hwalk⟩

theorem firstList_ne_none_of_walk (hne : before ≠ []) (h : walk before j = some (.array items))
    (after : List String) : firstList (before ++ after) j ≠ none := by
  induction before generalizing j with
  | nil => exact absurd rfl hne
  | cons s o ih =>
    obtain ⟨v, hv, hwalk⟩ := Option.bind_eq_some_iff.mp h
    rw [List.cons_append, firstList, hv]
    dsimp only
    split
    · exact Option.some_ne_none _
    · rename_i harray
      rw [Ne, Option.map_eq_none_iff]
      refine ih ?_ hwalk
      rintro rfl
      obtain rfl := Option.some.inj hwalk
      exact harray rfl

/-- The search for a list succeeds exactly if the walk stands on an array after some segments. -/
theorem firstList_ne_none_iff :
    firstList segs j ≠ none ↔ ∃ before after items, before ≠ [] ∧ segs = before ++ after ∧
      walk before j = some (.array items) := by
  constructor
  · intro h
    obtain ⟨⟨before, after⟩, hfound⟩ := Option.ne_none_iff_exists'.mp h
    obtain ⟨items, hwalk⟩ := exists_items_of_firstList hfound
    obtain ⟨hne, happend⟩ := firstList_append hfound
    exact ⟨before, after, items, hne, happend.symm, hwalk⟩
  · rintro ⟨before, after, items, hne, rfl, hwalk⟩
    exact firstList_ne_none_of_walk hne hwalk after

/-! ## The first list in a record -/

variable {r : Record}

theorem holdsList_iff :
    r.HoldsList q ↔ ∃ items, walk (segments q) (.object r) = some (.array items) := by
  rw [Record.HoldsList, resolveIn_eq]
  refine exists_congr fun items => ?_
  rw [present, Option.filter_eq_some_iff]
  exact and_iff_left rfl

theorem firstListPrefix_eq (hpath : path ≠ "") (j : Json) :
    firstListPrefix path j = (firstList (segments path) j).map fun (before, _) => join before :=
  if_neg fun hempty => hpath (String.isEmpty_iff.mp hempty)

theorem wholePrefix_of_firstList (h : firstList (segments path) (.object r) = some (before, after)) :
    segments (join before) = before ∧ WholePrefix (join before) path ∧ r.HoldsList (join before) := by
  obtain ⟨hne, happend⟩ := firstList_append h
  have hbefore : segments (join before) = before := by
    refine segments_join hne fun s hs => ?_
    have hmem : s ∈ segments path := happend ▸ List.mem_append_left after hs
    exact dot_not_mem_segments hmem
  obtain ⟨items, hwalk⟩ := exists_items_of_firstList h
  refine ⟨hbefore, wholePrefix_iff.mpr ⟨after, ?_⟩, holdsList_iff.mpr ⟨items, ?_⟩⟩
  · rw [hbefore, happend]
  · rw [hbefore, hwalk]

theorem firstListPrefix_eq_none_iff (hpath : path ≠ "") :
    firstListPrefix path (.object r) = none ↔ ∀ q, WholePrefix q path → ¬r.HoldsList q := by
  rw [firstListPrefix_eq hpath, Option.map_eq_none_iff]
  constructor
  · intro hnone q hq hlist
    obtain ⟨after, hafter⟩ := wholePrefix_iff.mp hq
    obtain ⟨items, hwalk⟩ := holdsList_iff.mp hlist
    rw [← hafter] at hnone
    exact firstList_ne_none_of_walk (segments_ne_nil q) hwalk after hnone
  · intro hnone
    cases hfound : firstList (segments path) (.object r) with
    | none => rfl
    | some found =>
      obtain ⟨-, hwhole, hlist⟩ := wholePrefix_of_firstList hfound
      exact absurd hlist (hnone _ hwhole)

/-- The shortest prefix made of whole segments at which the record holds a list. -/
def ShortestListPrefix (r : Record) (path q : String) : Prop :=
  WholePrefix q path ∧ r.HoldsList q ∧
    ∀ q', WholePrefix q' path → r.HoldsList q' → q.length ≤ q'.length

theorem shortest_of_firstListPrefix (h : firstListPrefix path (.object r) = some q) :
    ShortestListPrefix r path q := by
  have hpath : path ≠ "" := by
    rintro rfl
    cases h
  rw [firstListPrefix_eq hpath] at h
  obtain ⟨⟨before, after⟩, hfound, rfl⟩ := Option.map_eq_some_iff.mp h
  obtain ⟨hbefore, hwhole, hlist⟩ := wholePrefix_of_firstList hfound
  refine ⟨hwhole, hlist, fun q' hq' hlist' => ?_⟩
  obtain ⟨items, hwalk⟩ := holdsList_iff.mp hlist'
  have hpre := prefix_of_firstList hfound (segments_ne_nil q') (wholePrefix_iff.mp hq') hwalk
  rw [← hbefore] at hpre
  exact (wholePrefix_iff.mpr hpre).length_le

theorem ShortestListPrefix.unique (h : ShortestListPrefix r path q)
    (h' : ShortestListPrefix r path q') : q = q' := by
  obtain ⟨hq, hlist, hle⟩ := h
  obtain ⟨hq', hlist', hle'⟩ := h'
  rcases List.prefix_or_prefix_of_prefix (wholePrefix_iff.mp hq) (wholePrefix_iff.mp hq') with hpre | hpre
  · exact (wholePrefix_iff.mpr hpre).eq_of_length_le (hle' q hq hlist)
  · exact ((wholePrefix_iff.mpr hpre).eq_of_length_le (hle q' hq' hlist')).symm

theorem firstListPrefix_eq_some_iff (hpath : path ≠ "") :
    firstListPrefix path (.object r) = some q ↔ ShortestListPrefix r path q := by
  refine ⟨shortest_of_firstListPrefix, fun h => ?_⟩
  cases hfound : firstListPrefix path (.object r) with
  | none => exact absurd h.2.1 ((firstListPrefix_eq_none_iff hpath).mp hfound q h.1)
  | some q' => rw [(shortest_of_firstListPrefix hfound).unique h]

end Path
end GraphLoad
