import GraphLoad.Proofs.Record.Landing
import GraphLoad.Proofs.Specification.Valid

/-!
# The rounds of expansion

The list that a round starts from is the first one on the way to an endpoint in the first record, which is
never refused or skipped itself (`walks_agree`). A round takes a record key to what follows one of its dots and
keeps all settings of the group, so the rounds end, at a group that is expanded to itself (`expand_settles`).
-/

namespace GraphLoad.RelationshipGroup

open GraphLoad.Path

variable {g g' : RelationshipGroup} {p : ListPlace} {r : Record} {side : Side}

/-! ## What the first record shows -/

theorem map_path_listOn? (g : RelationshipGroup) (r : Record) (side : Side) :
    (g.listOn? r side).map ListPlace.path =
      firstListPrefix (g.endpoint side).recordKey (.object r) := by
  rw [listOn?, firstListPrefix]
  split
  · rfl
  · rw [Option.map_map]
    rfl

theorem listOn?_eq_none_iff_firstListPrefix :
    g.listOn? r side = none ↔ firstListPrefix (g.endpoint side).recordKey (.object r) = none := by
  rw [← map_path_listOn?, Option.map_eq_none_iff]

/-- The next round starts from the first list that the first record holds. -/
theorem firstListPrefix_of_nextList? (hp : g.nextList? = some p) (hr : g.records.head? = some r) :
    firstListPrefix (g.endpoint p.side).recordKey (.object r) = some p.path := by
  obtain ⟨first, hfirst, hlist⟩ := exists_first_of_nextList? hp
  obtain rfl := Option.some.inj (hr.symm.trans hfirst)
  rw [← map_path_listOn?, hlist, Option.map_some]

/-- A record that holds a list is cut into all its elements. -/
theorem split_of_heldAt {items : List Json} (h : r.heldAt p.path = .list items) (index : Nat) :
    g.split p r index =
      .ok (items.map (Record.carry · (r.carried (g.endpoint p.side.opposite).recordKey))) := by
  rw [split, h]

/-- Of a record that holds a list only elements are skipped. -/
theorem eq_of_mem_splitLog {items : List Json} (h : r.heldAt p.path = .list items) {index : Nat}
    {entry : Log.Entry} (hentry : entry ∈ g.splitLog p r index) :
    entry = .warn s!"⚠️  Skipping non-object element at '{p.path}' in {g.type} record {index}" := by
  rw [splitLog, h, split_of_heldAt h] at hentry
  obtain ⟨_, _, heq⟩ := List.mem_map.mp hentry
  exact heq.symm

/-- In a record a lookup finds the same as a walk through the record's object, and the search for a list on a
path finds the shortest prefix of the path, made of whole segments, at which a lookup finds a list; it finds
none if there is no such prefix. So the record that is searched for the next list of a group has a list at the
place found, and is cut into all its elements. -/
theorem walks_agree {path : String} (hpath : path ≠ "") (r : Record) :
    resolveIn path r = resolve path (.object r) ∧
      (∀ q, firstListPrefix path (.object r) = some q ↔ WholePrefix q path ∧ r.HoldsList q ∧
        ∀ q', WholePrefix q' path → r.HoldsList q' → q.length ≤ q'.length) ∧
      (firstListPrefix path (.object r) = none ↔ ∀ q, WholePrefix q path → ¬r.HoldsList q) ∧
      ∀ (g : RelationshipGroup) (p : ListPlace), g.records.head? = some r → g.nextList? = some p →
        (g.endpoint p.side).recordKey = path →
        firstListPrefix path (.object r) = some p.path ∧
          ∃ items, resolveIn p.path r = some (.array items) ∧ ∀ index,
            g.split p r index =
              .ok (items.map (Record.carry · (r.carried (g.endpoint p.side.opposite).recordKey))) ∧
            ∀ entry ∈ g.splitLog p r index, entry =
              .warn s!"⚠️  Skipping non-object element at '{p.path}' in {g.type} record {index}" := by
  refine ⟨?_, fun q => firstListPrefix_eq_some_iff hpath, firstListPrefix_eq_none_iff hpath, ?_⟩
  · rw [resolveIn_eq, resolve_eq hpath]
  · rintro g p hr hp rfl
    have hwhole := firstListPrefix_of_nextList? hp hr
    obtain ⟨-, ⟨items, hitems⟩, -⟩ := shortest_of_firstListPrefix hwhole
    have hheld : r.heldAt p.path = .list items := by rw [Record.heldAt, hitems]
    exact ⟨hwhole, items, hitems, fun index =>
      ⟨split_of_heldAt hheld index, fun _ => eq_of_mem_splitLog hheld⟩⟩

/-- A list under the empty key, before the first dot of the path. -/
theorem walks_agree_empty_segment :
    let r : Record := [("", .array [.object [("id", .string "x")]]), ("from", .string "a")]
    let g : RelationshipGroup :=
      ⟨"KNOWS", ⟨none, "uid", "from"⟩, ⟨none, "uid", ".id"⟩, [r], [], true, true⟩
    ".id" ≠ "" ∧ resolveIn ".id" r = resolve ".id" (.object r) ∧
      firstListPrefix ".id" (.object r) = some "" ∧ ∀ index, g.split ⟨.target, "", "id"⟩ r index =
        .ok [.object [("from", .string "a"), ("id", .string "x")]] := by
  intro r g
  have hpath : ".id" ≠ "" := by decide
  obtain ⟨hlookup, -, -, hround⟩ := walks_agree hpath r
  obtain ⟨hwhole, items, hitems, hsplit⟩ := hround g ⟨.target, "", "id"⟩ rfl (by decide) rfl
  have hlist : resolveIn "" r = some (.array [.object [("id", .string "x")]]) := by decide
  obtain rfl := Json.array.inj (Option.some.inj (hitems.symm.trans hlist))
  refine ⟨hpath, hlookup, hwhole, fun index => (hsplit index).1.trans (congrArg Except.ok ?_)⟩
  decide

/-! ## What a round leaves of the record keys -/

/-- A record key that is kept, or that is what follows one of the dots of the other and is not empty. -/
def IsRest (rest key : String) : Prop :=
  rest = key ∨ rest ≠ "" ∧ ∃ front, key = front ++ "." ++ rest

theorem IsRest.trans {a b c : String} (hab : IsRest a b) (hbc : IsRest b c) : IsRest a c := by
  rcases hab with rfl | ⟨hne, front, rfl⟩
  · exact hbc
  · rcases hbc with rfl | ⟨-, front', rfl⟩
    · exact .inr ⟨hne, front, rfl⟩
    · exact .inr ⟨hne, front' ++ "." ++ front, by simp only [String.append_assoc]⟩

/-- The list of a round and what follows it make up the record key. -/
theorem recordKey_of_nextList? (hp : g.nextList? = some p) (hrest : p.rest ≠ "") :
    (g.endpoint p.side).recordKey = p.path ++ "." ++ p.rest := by
  obtain ⟨first, -, hlist⟩ := exists_first_of_nextList? hp
  obtain ⟨-, before, after, hfound, hpath, hafter⟩ := exists_firstList_of_listOn? hlist
  obtain ⟨hne, happend⟩ := firstList_append hfound
  have hne' : after ≠ [] := by
    rintro rfl
    exact hrest (hafter.trans rfl)
  rw [hpath, hafter, ← join_append hne hne', happend, join_segments]

/-- A round takes a record key to what follows one of its dots. -/
theorem isRest_round (hp : g.nextList? = some p) (hrest : p.rest ≠ "") (side : Side) :
    IsRest ((g.round p).endpoint side).recordKey (g.endpoint side).recordKey := by
  revert side
  refine forall_side p.side ?_ ?_
  · rw [endpoint_round]
    exact .inr ⟨hrest, p.path, recordKey_of_nextList? hp hrest⟩
  · rw [endpoint_opposite_round]
    exact .inl rfl

theorem isRest_expand (h : g.expand = .ok g') (side : Side) :
    IsRest (g'.endpoint side).recordKey (g.endpoint side).recordKey := by
  refine expand_preserves
    (P := fun x => IsRest (x.endpoint side).recordKey (g.endpoint side).recordKey) h (.inl rfl) ?_
  exact fun hx hp hrest _ => (isRest_round hp hrest side).trans hx

/-! ## The rounds end -/

/-- Every round uses up a segment, and one is left in either record key. -/
theorem length_rounds_le {rounds : List RelationshipGroup} (h : (g :: rounds).IsChain Round) :
    rounds.length + 2 ≤ g.keyLength := by
  induction rounds generalizing g with
  | nil =>
    have hsource := List.length_pos_iff.mpr (segments_ne_nil g.source.recordKey)
    have htarget := List.length_pos_iff.mpr (segments_ne_nil g.target.recordKey)
    rw [keyLength, List.length_nil]
    omega
  | cons g' rounds ih =>
    obtain ⟨⟨p, hp, he⟩, hrest⟩ := List.isChain_cons_cons.mp h
    have hlt := g.keyLength_expandAt hp he
    have hle := ih hrest
    rw [List.length_cons]
    omega

/-- The group is expanded by one round after another, up to one behind which there is no further list or
whose list cannot be expanded. -/
theorem exists_rounds (g : RelationshipGroup) :
    ∃ rounds last, (g :: rounds).IsChain Round ∧ (g :: rounds).getLast? = some last ∧
      (last.nextList? = none ∧ g.expand = .ok last ∨
        ∃ p e, last.nextList? = some p ∧ last.expandAt p = .error e ∧ g.expand = .error e) := by
  induction g using expand.induct with
  | case1 g hnone =>
    exact ⟨[], g, .singleton g, rfl, .inl ⟨hnone, expand_of_nextList?_eq_none hnone⟩⟩
  | case2 g p hp e he =>
    exact ⟨[], g, .singleton g, rfl, .inr ⟨p, e, hp, he, expand_of_expandAt_eq_error hp he⟩⟩
  | case3 g p hp g₁ he ih =>
    obtain ⟨rounds, last, hrounds, hlast, hend⟩ := ih
    refine ⟨g₁ :: rounds, last, .cons_cons ⟨p, hp, he⟩ hrounds, ?_, ?_⟩
    · rw [List.getLast?_cons_cons, hlast]
    · rwa [expand_of_expandAt hp he]

/-- A group is expanded in no more rounds than its record keys have segments behind their first ones, and a
round that fails ends them. In the group that they lead to, the first record has no list on the way to an
end, so it is expanded to itself; it has the settings of the first group, and of each record key all or what
follows one of its dots. -/
theorem expand_settles (g : RelationshipGroup) :
    (∃ rounds last, (g :: rounds).IsChain Round ∧ (g :: rounds).getLast? = some last ∧
      rounds.length + 2 ≤ g.keyLength ∧
      (last.nextList? = none ∧ g.expand = .ok last ∨
        ∃ p e, last.nextList? = some p ∧ last.expandAt p = .error e ∧ g.expand = .error e)) ∧
    ∀ h, g.expand = .ok h →
      (∀ first, h.records.head? = some first → ∀ side,
        containsList (h.endpoint side).recordKey (.object first) = false ∧
          ((h.endpoint side).recordKey ≠ "" →
            ∀ q, WholePrefix q (h.endpoint side).recordKey → ¬first.HoldsList q)) ∧
      h.expand = .ok h ∧ g.KeepsSettings h ∧
      ∀ side, IsRest (h.endpoint side).recordKey (g.endpoint side).recordKey := by
  refine ⟨?_, fun h hexpand => ⟨?_, ?_, ?_⟩⟩
  · obtain ⟨rounds, last, hrounds, hlast, hend⟩ := exists_rounds g
    exact ⟨rounds, last, hrounds, hlast, length_rounds_le hrounds, hend⟩
  · intro first hfirst side
    have hnone := nextList?_eq_none_iff.mp (nextList?_eq_none_of_expand hexpand) first hfirst side
    rw [listOn?_eq_none_iff_firstListPrefix] at hnone
    exact ⟨by rw [containsList, hnone]; rfl, fun hkey => (firstListPrefix_eq_none_iff hkey).mp hnone⟩
  · exact expand_of_nextList?_eq_none (nextList?_eq_none_of_expand hexpand)
  · exact ⟨keepsSettings_expand hexpand, isRest_expand hexpand⟩

/-- A key with empty segments and two lists on the way: the second round leaves what follows its second dot. -/
theorem expand_settles_empty_segments :
    let g : RelationshipGroup := ⟨"KNOWS", ⟨none, "uid", "from"⟩, ⟨some "Person", "uid", ".to..id"⟩,
      [[("", .array [.object [("to", .array [.object [("", .object [("id", .string "x")])]])]]),
        ("from", .string "a")]], [], true, true⟩
    ∃ h, g.expand = .ok h ∧ h.target.recordKey = ".id" ∧ h.expand = .ok h ∧ g.KeepsSettings h ∧
      IsRest ".id" ".to..id" := by
  intro g
  have hfirst : g.expandAt ⟨.target, "", "to..id"⟩ = .ok (g.round ⟨.target, "", "to..id"⟩) :=
    expandAt_eq_ok_iff.mpr ⟨by decide, by decide, rfl⟩
  have hsecond : (g.round ⟨.target, "", "to..id"⟩).expandAt ⟨.target, "to", ".id"⟩ =
      .ok ((g.round ⟨.target, "", "to..id"⟩).round ⟨.target, "to", ".id"⟩) :=
    expandAt_eq_ok_iff.mpr ⟨by decide, by decide, rfl⟩
  have hexpand : g.expand = .ok ((g.round ⟨.target, "", "to..id"⟩).round ⟨.target, "to", ".id"⟩) := by
    rw [expand_of_expandAt (by decide) hfirst, expand_of_expandAt (by decide) hsecond,
      expand_of_nextList?_eq_none (by decide)]
  obtain ⟨-, hsettled⟩ := expand_settles g
  obtain ⟨-, hself, hkeeps, hrest⟩ := hsettled _ hexpand
  exact ⟨_, hexpand, rfl, hself, hkeeps, hrest .target⟩

end GraphLoad.RelationshipGroup
