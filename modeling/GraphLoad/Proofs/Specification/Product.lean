import GraphLoad.Proofs.Specification.Elements
import GraphLoad.Proofs.Specification.Round
import Mathlib.Data.List.Basic
import Mathlib.Logic.Relation

/-!
# The relationships that a group describes

`expand_eq_product`: all rounds of expansion together relate, for each record, every leaf on the way
to the source with every leaf on the way to the target. A round cuts the records at one array and
leaves the relationships of the group as they are (`Regular.round`); the group stays regular, with
one shape cut behind the array.
-/

namespace GraphLoad.RelationshipGroup

open GraphLoad.Path

/-- All records of the group have the given shapes on the way to its ends. No key has a dot in it,
and no segment of a record key is an index. -/
structure Regular (g : RelationshipGroup) (shape : Side → Shape) : Prop where
  segments : ∀ side, (shape side).segments = Path.segments (g.endpoint side).recordKey
  fits : ∀ r ∈ g.records, ∀ side, Fits (shape side) (.object r)
  noIndex : ∀ side, ∀ s ∈ (shape side).segments, index? s = none
  dotFree : ∀ r ∈ g.records, Json.DotFree (.object r)

/-- A condition on a group and its next list holds in every round. -/
def EveryRound (C : RelationshipGroup → ListPlace → Prop) (g : RelationshipGroup) : Prop :=
  ∀ h p, Relation.ReflTransGen Round g h → h.nextList? = some p → C h p

/-- In every round the shortened key begins with another segment than the key of the other end. -/
def Separate (g : RelationshipGroup) : Prop :=
  ∀ h p, Relation.ReflTransGen Round g h → h.nextList? = some p →
    (Path.segments p.rest).head? ≠ (Path.segments (h.endpoint p.side.opposite).recordKey).head?

/-- The leaves of a record on the way to an end. -/
def leavesAt (g : RelationshipGroup) (side : Side) (r : Record) : List Json :=
  leaves (Path.segments (g.endpoint side).recordKey) (.object r)

/-- The ends of the relationships that a record describes. -/
def pairs (g : RelationshipGroup) (r : Record) : List (Json × Json) :=
  (g.leavesAt .target r).flatMap fun t => (g.leavesAt .source r).map fun f => (f, t)

/-- The ends that are looked up in a record. -/
def ends (g : RelationshipGroup) (r : Record) : Option Json × Option Json :=
  (r.endpointValue? g.source.recordKey, r.endpointValue? g.target.recordKey)

variable {g : RelationshipGroup} {shape : Side → Shape} {p : ListPlace}

/-! ## The next list -/

theorem Regular.listOn?_eq (hg : g.Regular shape) (hproceeds : ∀ side, (shape side).Proceeds)
    {r : Record} (hr : r ∈ g.records) (side : Side) :
    g.listOn? r side = (shape side).atList?.map fun (before, after) =>
      ⟨side, join before, join after.segments⟩ := by
  have hsegs := hg.segments side
  rw [listOn?]
  split
  · -- an empty key has an empty segment only, and no array can lie behind that
    rename_i hempty
    rw [String.isEmpty_iff.mp hempty] at hsegs
    cases hlist : (shape side).atList? with
    | none => rfl
    | some found =>
      obtain ⟨before, after⟩ := found
      obtain ⟨hne, happend⟩ := Shape.segments_of_atList? hlist
      have hafter := ((hproceeds side).of_atList? hlist).1
      rw [hsegs, show Path.segments "" = [""] from rfl] at happend
      obtain ⟨s, o, rfl⟩ := List.exists_cons_of_ne_nil hne
      have hnil := (List.append_eq_nil_iff.mp (List.cons.inj happend).2).2
      exact absurd (by rw [hnil]; rfl) hafter
  · rw [← hsegs, (hg.fits r hr side).meets.firstList_eq, Option.map_map]
    rfl

theorem Regular.atList?_of_nextList? (hg : g.Regular shape)
    (hproceeds : ∀ side, (shape side).Proceeds) (hp : g.nextList? = some p) :
    ∃ before after, (shape p.side).atList? = some (before, after) ∧ p.path = join before ∧
      p.rest = join after.segments ∧ (p.side = .source → (shape .target).atList? = none) := by
  rw [nextList?] at hp
  split at hp
  · cases hp
  · rename_i r rs hrs
    have hr : r ∈ g.records := hrs ▸ List.mem_cons_self
    rw [hg.listOn?_eq hproceeds hr, hg.listOn?_eq hproceeds hr] at hp
    rcases Option.or_eq_some_iff.mp hp with h | ⟨hnone, h⟩
    · obtain ⟨⟨before, after⟩, hlist, rfl⟩ := Option.map_eq_some_iff.mp h
      exact ⟨before, after, hlist, rfl, rfl, Side.noConfusion⟩
    · obtain ⟨⟨before, after⟩, hlist, rfl⟩ := Option.map_eq_some_iff.mp h
      exact ⟨before, after, hlist, rfl, rfl, fun _ => Option.map_eq_none_iff.mp hnone⟩

theorem Regular.atList?_eq_none (hg : g.Regular shape)
    (hproceeds : ∀ side, (shape side).Proceeds) (hp : g.nextList? = none) {r : Record}
    (hr : r ∈ g.records) (side : Side) : (shape side).atList? = none := by
  rw [nextList?] at hp
  split at hp
  · rename_i hnil
    rw [hnil] at hr
    cases hr
  · rename_i first rs hrs
    have hfirst : first ∈ g.records := hrs ▸ List.mem_cons_self
    rw [hg.listOn?_eq hproceeds hfirst, hg.listOn?_eq hproceeds hfirst, Option.or_eq_none_iff,
      Option.map_eq_none_iff, Option.map_eq_none_iff] at hp
    cases side with
    | source => exact hp.2
    | target => exact hp.1

/-! ## One record in a round -/

/-- The shapes behind a round. -/
def shapeBehind (shape : Side → Shape) (p : ListPlace) (after : Shape) (side : Side) : Shape :=
  if side = p.side then after else shape side

@[simp]
theorem shapeBehind_side (after : Shape) : shapeBehind shape p after p.side = after :=
  if_pos rfl

@[simp]
theorem shapeBehind_opposite (after : Shape) :
    shapeBehind shape p after p.side.opposite = shape p.side.opposite := by
  rw [shapeBehind]
  cases p.side <;> rfl

/-- A record holds a list of records at the place of a round. -/
theorem Regular.heldAt_eq (hg : g.Regular shape) {before : List String} {after : Shape}
    (hlist : (shape p.side).atList? = some (before, after)) (hpath : p.path = join before)
    {r : Record} (hr : r ∈ g.records) :
    ∃ elements : List Record, r.heldAt p.path = .list (elements.map .object) ∧
      (∀ e ∈ elements, Fits after (.object e) ∧ Json.DotFree (.object e)) ∧
      g.leavesAt p.side r = elements.flatMap fun e => leaves after.segments (.object e) := by
  obtain ⟨elements, hwalk, hfits, hleaves⟩ := (hg.fits r hr p.side).exists_elements hlist
  refine ⟨elements, ?_, fun e he => ⟨hfits e he, ?_⟩, ?_⟩
  · rw [Record.heldAt, resolveIn_eq, hpath, (Shape.segments_join hlist (hg.segments p.side)).1, hwalk]
    rfl
  · exact Json.dotFree_array_iff.mp ((hg.dotFree r hr).walk hwalk) _
      (List.mem_map.mpr ⟨e, he, rfl⟩)
  · rw [leavesAt, ← hg.segments p.side, hleaves]

theorem filterMap_cut {r : Record} {elements : List Record}
    (hheld : r.heldAt p.path = .list (elements.map .object)) :
    (g.cut p r).filterMap Record.ofElement? =
      elements.map (·.takeIn (r.carried (g.endpoint p.side.opposite).recordKey)) := by
  rw [cut, hheld]
  dsimp only
  rw [List.map_map, List.filterMap_map, ← List.filterMap_eq_map]
  congr 1
  funext e
  rw [Function.comp_apply, Function.comp_apply, Record.carry_object]
  rfl

/-- What becomes of an element: it fits the shapes behind the round, it has its leaves on the way to
the end that the round is about, and those of the record it comes from on the way to the other. -/
theorem Regular.takeIn_element (hg : g.Regular shape) (hproceeds : ∀ side, (shape side).Proceeds)
    {before : List String} {after : Shape} (hlist : (shape p.side).atList? = some (before, after))
    (hrest : p.rest = join after.segments)
    (hapart : (Path.segments p.rest).head? ≠
      (Path.segments (g.endpoint p.side.opposite).recordKey).head?)
    {r e e' : Record} (hr : r ∈ g.records) (hfits : Fits after (.object e))
    (hdot : Json.DotFree (.object e))
    (he' : e' = e.takeIn (r.carried (g.endpoint p.side.opposite).recordKey)) :
    Json.DotFree (.object e') ∧ (∀ side, Fits (shapeBehind shape p after side) (.object e')) ∧
      (g.round p).leavesAt p.side e' = leaves after.segments (.object e) ∧
      (g.round p).leavesAt p.side.opposite e' = g.leavesAt p.side.opposite r := by
  obtain ⟨hdot', hother, hleaves, huntouched⟩ := Record.takeIn_carried (hg.dotFree r hr)
    (hg.fits r hr p.side.opposite) (hg.segments p.side.opposite)
    (hg.noIndex p.side.opposite) hdot
  rw [← he'] at hdot' hother hleaves huntouched
  have hafter : after.segments ≠ [] := (hproceeds p.side).segments_ne_nil hlist
  have hsegs : Path.segments p.rest = after.segments := by
    rw [hrest, (Shape.segments_join hlist (hg.segments p.side)).2 hafter]
  obtain ⟨⟨s, m⟩, after', rfl⟩ := List.exists_cons_of_ne_nil (fun h : after = [] =>
    hafter (by rw [h]; rfl))
  have hget : Fields.get? e' s = Fields.get? e s := by
    refine huntouched s fun h => hapart ?_
    rw [h, hsegs]
    rfl
  refine ⟨hdot', forall_side p.side ?_ ?_, ?_, ?_⟩
  · rw [shapeBehind_side]
    exact hfits.congr hget
  · rw [shapeBehind_opposite]
    exact hother
  · rw [leavesAt, endpoint_round, hsegs]
    exact leaves_congr hget
  · rw [leavesAt, endpoint_opposite_round]
    exact hleaves

/-- The records that a record is cut into describe together what it describes. -/
theorem Regular.flatMap_pairs_cut (hg : g.Regular shape)
    (hproceeds : ∀ side, (shape side).Proceeds) {before : List String} {after : Shape}
    (hlist : (shape p.side).atList? = some (before, after)) (hpath : p.path = join before)
    (hrest : p.rest = join after.segments)
    (hsource : p.side = .source → (shape .target).atList? = none)
    (hapart : (Path.segments p.rest).head? ≠
      (Path.segments (g.endpoint p.side.opposite).recordKey).head?) {r : Record}
    (hr : r ∈ g.records) :
    ((g.cut p r).filterMap Record.ofElement?).flatMap (g.round p).pairs = g.pairs r := by
  obtain ⟨elements, hheld, helements, hleaves⟩ := hg.heldAt_eq hlist hpath hr
  rw [filterMap_cut hheld, List.flatMap_map]
  have heach : ∀ e ∈ elements,
      (g.round p).leavesAt p.side (e.takeIn (r.carried (g.endpoint p.side.opposite).recordKey)) =
        leaves after.segments (.object e) ∧
      (g.round p).leavesAt p.side.opposite
        (e.takeIn (r.carried (g.endpoint p.side.opposite).recordKey)) =
        g.leavesAt p.side.opposite r := by
    intro e he
    obtain ⟨hfits, hdot⟩ := helements e he
    exact (hg.takeIn_element hproceeds hlist hrest hapart hr hfits hdot rfl).2.2
  cases hside : p.side with
  | target =>
    rw [hside] at heach hleaves
    rw [pairs, hleaves, List.flatMap_assoc]
    apply List.flatMap_congr
    intro e he
    obtain ⟨htarget, hother⟩ := heach e he
    rw [pairs, htarget, show Side.source = Side.target.opposite from rfl,
      hother]
  | source =>
    -- by now there is one leaf on the way to the target
    obtain ⟨t, -, -, ht⟩ := Record.exists_scalarAt? (hg.dotFree r hr) (hg.fits r hr .target)
      (hg.segments .target) (hsource hside)
    rw [hside] at heach hleaves
    rw [pairs, hleaves, leavesAt, ht, List.flatMap_singleton, List.map_flatMap]
    apply List.flatMap_congr
    intro e he
    obtain ⟨hown, hother⟩ := heach e he
    rw [pairs, hown, show Side.target = Side.source.opposite from rfl,
      hother, leavesAt, show Side.source.opposite = Side.target from rfl, ht,
      List.flatMap_singleton]

/-! ## One round -/

/-- A round succeeds, keeps the group regular, and changes nothing in what the group describes. -/
theorem Regular.round (hg : g.Regular shape) (hproceeds : ∀ side, (shape side).Proceeds)
    (hp : g.nextList? = some p)
    (hapart : (Path.segments p.rest).head? ≠
      (Path.segments (g.endpoint p.side.opposite).recordKey).head?) :
    g.expandAt p = .ok (g.round p) ∧ ∃ shape' : Side → Shape, (g.round p).Regular shape' ∧
      (∀ side, (shape' side).Proceeds) ∧
      (g.round p).records.flatMap (g.round p).pairs = g.records.flatMap g.pairs := by
  obtain ⟨before, after, hlist, hpath, hrest, hsource⟩ := hg.atList?_of_nextList? hproceeds hp
  obtain ⟨hne, hafter⟩ := (hproceeds p.side).of_atList? hlist
  have hnil : after.segments ≠ [] := (hproceeds p.side).segments_ne_nil hlist
  have hlists : ∀ r ∈ g.records, r.heldAt p.path ≠ .other := by
    intro r hr
    obtain ⟨elements, hheld, -, -⟩ := hg.heldAt_eq hlist hpath hr
    rw [hheld]
    nofun
  have hrecords : ∀ e' ∈ (g.round p).records, Json.DotFree (.object e') ∧
      ∀ side, Fits (shapeBehind shape p after side) (.object e') := by
    intro e' he'
    rw [records_round, List.filterMap_flatMap] at he'
    obtain ⟨r, hr, he'⟩ := List.mem_flatMap.mp he'
    obtain ⟨elements, hheld, helements, -⟩ := hg.heldAt_eq hlist hpath hr
    rw [filterMap_cut hheld] at he'
    obtain ⟨e, he, rfl⟩ := List.mem_map.mp he'
    obtain ⟨hfits, hdot⟩ := helements e he
    obtain ⟨hdot', hfits', -, -⟩ :=
      hg.takeIn_element hproceeds hlist hrest hapart hr hfits hdot rfl
    exact ⟨hdot', hfits'⟩
  refine ⟨expandAt_eq_ok_iff.mpr ⟨hrest ▸ hne, hlists, rfl⟩, shapeBehind shape p after,
    ⟨forall_side p.side ?_ ?_, fun e' he' => (hrecords e' he').2,
      forall_side p.side ?_ ?_, fun e' he' => (hrecords e' he').1⟩,
    forall_side p.side ?_ ?_, ?_⟩
  · rw [shapeBehind_side, endpoint_round, hrest, (Shape.segments_join hlist (hg.segments p.side)).2 hnil]
  · rw [shapeBehind_opposite, endpoint_opposite_round, hg.segments]
  · intro s hs
    rw [shapeBehind_side] at hs
    refine hg.noIndex p.side s ?_
    rw [← (Shape.segments_of_atList? hlist).2]
    exact List.mem_append_right _ hs
  · rw [shapeBehind_opposite]
    exact hg.noIndex _
  · rw [shapeBehind_side]
    exact hafter
  · rw [shapeBehind_opposite]
    exact hproceeds _
  · rw [records_round, List.filterMap_flatMap, List.flatMap_assoc]
    apply List.flatMap_congr
    intro r hr
    exact hg.flatMap_pairs_cut hproceeds hlist hpath hrest hsource hapart hr

/-! ## All rounds -/

theorem everyRound_of_nextList?_eq_none {C : RelationshipGroup → ListPlace → Prop}
    (hp : g.nextList? = none) : EveryRound C g := by
  intro h q hreach hq
  rcases hreach.cases_head with rfl | ⟨g', ⟨p, hp', -⟩, -⟩
  · rw [hp] at hq
    cases hq
  · rw [hp] at hp'
    cases hp'

/-- Such a condition can be checked round by round. -/
theorem everyRound_iff {C : RelationshipGroup → ListPlace → Prop} (hp : g.nextList? = some p) :
    EveryRound C g ↔ C g p ∧ ∀ g', g.expandAt p = .ok g' → EveryRound C g' := by
  constructor
  · intro hg
    exact ⟨hg g p .refl hp, fun g' hround h q hreach => hg h q (hreach.head ⟨p, hp, hround⟩)⟩
  · rintro ⟨hnow, hrest⟩ h q hreach hq
    rcases hreach.cases_head with rfl | ⟨g', ⟨p', hp', hround⟩, hreach⟩
    · obtain rfl := Option.some.inj (hp.symm.trans hq)
      exact hnow
    · obtain rfl := Option.some.inj (hp.symm.trans hp')
      exact hrest g' hround h q hreach hq

theorem separate_of_nextList?_eq_none (hp : g.nextList? = none) : g.Separate :=
  everyRound_of_nextList?_eq_none hp

theorem separate_iff (hp : g.nextList? = some p) :
    g.Separate ↔ (Path.segments p.rest).head? ≠
        (Path.segments (g.endpoint p.side.opposite).recordKey).head? ∧
      ∀ g', g.expandAt p = .ok g' → g'.Separate :=
  everyRound_iff hp

/-- Where no list is left, the ends that are looked up in a record are those of its one
relationship. -/
theorem Regular.map_ends (hg : g.Regular shape) (hproceeds : ∀ side, (shape side).Proceeds)
    (hp : g.nextList? = none) :
    g.records.map g.ends = (g.records.flatMap g.pairs).map fun (f, t) => (some f, some t) := by
  rw [List.map_eq_flatMap, List.map_flatMap]
  apply List.flatMap_congr
  intro r hr
  have hend : ∀ side, ∃ v, r.scalarAt? (g.endpoint side).recordKey = some v ∧
      g.leavesAt side r = [v] := by
    intro side
    obtain ⟨v, -, hat, hleaves⟩ := Record.exists_scalarAt? (hg.dotFree r hr) (hg.fits r hr side)
      (hg.segments side) (hg.atList?_eq_none hproceeds hp hr side)
    exact ⟨v, hat, hleaves⟩
  obtain ⟨f, hf, hfs⟩ := hend .source
  obtain ⟨t, ht, hts⟩ := hend .target
  have hends : g.ends r = (some f, some t) := by
    rw [← hf, ← ht, ← Record.endpointValue?_eq, ← Record.endpointValue?_eq]
    rfl
  rw [hends, pairs, hfs, hts]
  rfl

/-- The rounds end in a group whose records have the ends of the relationships that the group
describes: for each record, each leaf on the way to the target and each leaf on the way to the
source, in this order. -/
theorem expand_eq_product (hg : g.Regular shape) (hproceeds : ∀ side, (shape side).Proceeds)
    (hseparate : g.Separate) :
    ∃ h, g.expand = .ok h ∧
      h.records.map h.ends = (g.records.flatMap g.pairs).map fun (f, t) => (some f, some t) := by
  induction g using RelationshipGroup.expand.induct generalizing shape with
  | case1 g hnone => exact ⟨g, expand_of_nextList?_eq_none hnone, hg.map_ends hproceeds hnone⟩
  | case2 g p hp e he =>
    obtain ⟨hapart, -⟩ := (separate_iff hp).mp hseparate
    rw [(hg.round hproceeds hp hapart).1] at he
    cases he
  | case3 g p hp g' hround ih =>
    obtain ⟨hapart, hseparate'⟩ := (separate_iff hp).mp hseparate
    obtain ⟨hok, shape', hg', hproceeds', hpairs⟩ := hg.round hproceeds hp hapart
    obtain rfl := Except.ok.inj (hok.symm.trans hround)
    obtain ⟨h, hexpand, hends⟩ := ih hg' hproceeds' (hseparate' _ hround)
    exact ⟨h, (expand_of_expandAt hp hround).trans hexpand, hends.trans (by rw [hpairs])⟩

/-- Two owners and two lines are four relationships. -/
theorem expand_eq_product_both_sides :
    ∃ h, (⟨"OWNS", ⟨none, "uid", "owners.uid"⟩, ⟨none, "sku", "lines.sku"⟩,
        [[("lines", .array [.object [("sku", .string "s1")], .object [("sku", .string "s2")]]),
          ("owners", .array [.object [("uid", .string "u1")], .object [("uid", .string "u2")]])]],
        [], true, true⟩ : RelationshipGroup).expand = .ok h ∧
      h.records.map h.ends =
        [(some (.string "u1"), some (.string "s1")), (some (.string "u2"), some (.string "s1")),
          (some (.string "u1"), some (.string "s2")), (some (.string "u2"), some (.string "s2"))] := by
  have hregular : Regular ⟨"OWNS", ⟨none, "uid", "owners.uid"⟩, ⟨none, "sku", "lines.sku"⟩,
      [[("lines", .array [.object [("sku", .string "s1")], .object [("sku", .string "s2")]]),
        ("owners", .array [.object [("uid", .string "u1")], .object [("uid", .string "u2")]])]],
      [], true, true⟩ fun side =>
        if side = .source then [("owners", true), ("uid", false)]
        else [("lines", true), ("sku", false)] := by
    refine ⟨?_, ?_, ?_, ?_⟩
    · intro side
      cases side <;> decide
    · intro r hr side
      obtain rfl := List.mem_singleton.mp hr
      cases side with
      | source =>
        refine .list (show _ = some (Json.array ([[("uid", .string "u1")],
          [("uid", .string "u2")]].map Json.object)) from rfl) ?_
        simpa using ⟨.field rfl (.leaf rfl), .field rfl (.leaf rfl)⟩
      | target =>
        refine .list (show _ = some (Json.array ([[("sku", .string "s1")],
          [("sku", .string "s2")]].map Json.object)) from rfl) ?_
        simpa using ⟨.field rfl (.leaf rfl), .field rfl (.leaf rfl)⟩
    · intro side
      cases side <;> decide
    · intro r hr
      obtain rfl := List.mem_singleton.mp hr
      simp [Json.dotFree_object_iff, Json.dotFree_array_iff, or_imp, forall_and,
        Json.DotFree.string]
  refine expand_eq_product hregular ?_ ?_
  · intro side
    cases side <;> simp [Shape.Proceeds, Shape.segments, join]
  · refine (separate_iff (p := ⟨.target, "lines", "sku"⟩) (by decide)).mpr ⟨by decide, ?_⟩
    intro g hg
    obtain ⟨-, -, rfl⟩ := expandAt_eq_ok_iff.mp hg
    refine (separate_iff (p := ⟨.source, "owners", "uid"⟩) (by decide)).mpr ⟨by decide, ?_⟩
    intro g hg
    obtain ⟨-, -, rfl⟩ := expandAt_eq_ok_iff.mp hg
    exact separate_of_nextList?_eq_none (by decide)

/-- A path with nothing but an empty segment behind a list is not expanded. -/
theorem expand_stops_behind_list :
    ¬∀ (g : RelationshipGroup) (shape : Side → Shape), g.Regular shape → g.Separate →
      ∃ h, g.expand = .ok h ∧
        h.records.map h.ends = (g.records.flatMap g.pairs).map fun (f, t) => (some f, some t) := by
  intro hall
  have hregular : Regular ⟨"KNOWS", ⟨none, "uid", "from"⟩, ⟨none, "uid", "to."⟩,
      [[("from", .string "a"), ("to", .array [.object [("", .string "x")]])]], [], true, true⟩ fun side =>
        if side = .source then [("from", false)] else [("to", true), ("", false)] := by
    refine ⟨?_, ?_, ?_, ?_⟩
    · intro side
      cases side <;> decide
    · intro r hr side
      obtain rfl := List.mem_singleton.mp hr
      cases side with
      | source => exact .field rfl (.leaf rfl)
      | target =>
        refine .list (show _ = some (Json.array ([[("", .string "x")]].map Json.object)) from rfl) ?_
        simpa using .field rfl (.leaf rfl)
    · intro side
      cases side <;> decide
    · intro r hr
      obtain rfl := List.mem_singleton.mp hr
      simp [Json.dotFree_object_iff, Json.dotFree_array_iff, or_imp, forall_and,
        Json.DotFree.string]
  obtain ⟨h, hexpand, -⟩ := hall _ _ hregular
    ((separate_iff (p := ⟨.target, "to", ""⟩) (by decide)).mpr ⟨by decide, fun g' hg' =>
      absurd rfl (expandAt_eq_ok_iff.mp hg').1⟩)
  rw [expand_of_expandAt_eq_error (p := ⟨.target, "to", ""⟩) (by decide) rfl] at hexpand
  cases hexpand

end GraphLoad.RelationshipGroup
