import GraphLoad.Json.Reader
import GraphLoad.Proofs.Json.Everywhere
import Mathlib.Data.List.Nodup
import Mathlib.Data.List.Perm.Basic

/-!
# The same value in another order

Two values are the same if they differ in the order of their fields only (`Json.same`). Every value
that is read holds its fields in ascending order (`Json.arranged_of_read`), and so held the same value
is the same term (`Json.same_iff_arrange_eq`).
-/

namespace GraphLoad

/-! ## Fields in order -/

namespace Fields

variable {fields f g : Fields} {k : String} {v : Json}

theorem sorted_replace (h : fields.Sorted) : (replace k v fields).Sorted := by
  rwa [Sorted, keys_replace]

theorem sorted_add (h : fields.Sorted) (hk : k ∉ fields.keys) : (add k v fields).Sorted := by
  induction fields with
  | nil => exact List.pairwise_singleton _ _
  | cons e r ih =>
    obtain ⟨he, hr⟩ := List.pairwise_cons.mp h
    obtain ⟨hne, hkr⟩ := not_or.mp (mt List.mem_cons.mpr hk)
    rw [add]
    split
    · rename_i hlt
      refine List.pairwise_cons.mpr ⟨fun l hl => ?_, h⟩
      rcases List.mem_cons.mp hl with rfl | hl
      · exact hlt
      · exact String.lt_trans hlt (he l hl)
    · rename_i hle
      have hlt : e.1 < k := by
        by_contra hge
        exact hne (String.le_antisymm (String.not_lt.mp hge) (String.not_lt.mp hle))
      refine List.pairwise_cons.mpr ⟨fun l hl => ?_, ih hr hkr⟩
      rcases List.mem_cons.mp ((keys_add_perm k v r).mem_iff.mp hl) with rfl | hl
      · exact hlt
      · exact he l hl

/-- A write keeps the order. -/
theorem sorted_insert (h : fields.Sorted) (k : String) (v : Json) : (insert k v fields).Sorted := by
  rw [insert]
  split
  · exact sorted_replace h
  · rename_i hnone
    exact sorted_add h (get?_eq_none_iff.mp (by simpa using hnone))

theorem sorted_insertAll (h : fields.Sorted) (entries : Fields) :
    (insertAll fields entries).Sorted := by
  induction entries generalizing fields with
  | nil => exact h
  | cons e r ih => exact ih (sorted_insert h e.1 e.2)

theorem sorted_nil : Sorted [] :=
  List.Pairwise.nil

theorem sorted_ofList (entries : Fields) : (ofList entries).Sorted :=
  sorted_insertAll sorted_nil entries

theorem Sorted.nodup (h : fields.Sorted) : fields.keys.Nodup := by
  refine List.Pairwise.imp (fun {k l} hlt => ?_) h
  rintro rfl
  exact String.lt_irrefl k hlt

/-- The same fields have one order. -/
theorem Sorted.eq_of_perm (hf : f.Sorted) (hg : g.Sorted) (h : f.Perm g) : f = g := by
  refine h.eq_of_pairwise (fun a b _ _ hab hba => ?_) (List.pairwise_map.mp hf)
    (List.pairwise_map.mp hg)
  exact absurd hba (String.lt_asymm hab)

/-- Fields in order are told apart by what stands under some key. -/
theorem Sorted.ext (hf : f.Sorted) (hg : g.Sorted) (h : ∀ k, get? f k = get? g k) : f = g := by
  have mem_of_mem : ∀ {a b : Fields}, a.Sorted → (∀ k, get? a k = get? b k) → ∀ e ∈ a, e ∈ b :=
    fun ha hab e he => mem_of_get? (hab e.1 ▸ get?_of_mem ha.nodup he)
  have hperm : f.Perm g :=
    (List.perm_ext_iff_of_nodup (hf.nodup.of_map _) (hg.nodup.of_map _)).mpr fun e =>
      ⟨mem_of_mem hf h e, mem_of_mem hg (fun k => (h k).symm) e⟩
  exact hf.eq_of_perm hg hperm

/-- Entries are put in order. -/
theorem Sorted.ofList_eq_of_perm {entries : Fields} (h : fields.Sorted) (hperm : entries.Perm fields) :
    ofList entries = fields := by
  have hnodup : entries.keys.Nodup := (hperm.map Prod.fst).nodup_iff.mpr h.nodup
  exact (sorted_ofList entries).eq_of_perm h ((ofList_perm hnodup).trans hperm)

theorem Sorted.ofList_eq (h : fields.Sorted) : ofList fields = fields :=
  h.ofList_eq_of_perm (List.Perm.refl fields)

end Fields

/-! ## Values in order -/

namespace Json

open Fields (mapValues)

/-- The fields of every object in the value, at any depth, are in order. -/
def Arranged : Json → Prop :=
  Everywhere Fields.Sorted

theorem Arranged.proper {v : Json} (h : Arranged v) : Proper v := by
  induction h with
  | null => exact .null
  | bool b => exact .bool b
  | number n => exact .number n
  | string s => exact .string s
  | array _ ih => exact .array ih
  | object hfields _ ih => exact .object hfields.nodup ih

mutual

/-- The value with the fields of every object in order. -/
def arrange : Json → Json
  | .null => .null
  | .bool b => .bool b
  | .number n => .number n
  | .string s => .string s
  | .array items => .array (arrangeItems items)
  | .object fields => ofEntries (arrangeFields fields)

def arrangeItems : List Json → List Json
  | [] => []
  | v :: r => arrange v :: arrangeItems r

def arrangeFields : List (String × Json) → List (String × Json)
  | [] => []
  | (k, v) :: r => (k, arrange v) :: arrangeFields r

end

@[simp]
theorem arrange_array (items : List Json) :
    (array items).arrange = .array (items.map arrange) := by
  rw [arrange]
  congr 1
  induction items with
  | nil => rfl
  | cons v r ih => rw [arrangeItems, ih, List.map_cons]

@[simp]
theorem arrange_object (fields : Fields) :
    (object fields).arrange = ofEntries (mapValues arrange fields) := by
  rw [arrange]
  congr 1
  induction fields with
  | nil => rfl
  | cons e r ih =>
    rw [arrangeFields, ih]
    rfl

theorem arranged_arrange (v : Json) : Arranged v.arrange := by
  induction v with
  | null => exact .null
  | bool b => exact .bool b
  | number n => exact .number n
  | string s => exact .string s
  | array items ih =>
    rw [arrange_array]
    refine .array fun w hw => ?_
    obtain ⟨v, hv, rfl⟩ := List.mem_map.mp hw
    exact ih v hv
  | object fields ih =>
    rw [arrange_object]
    refine .object (Fields.sorted_ofList _) fun e he => ?_
    obtain ⟨x, hx, rfl⟩ := List.mem_map.mp (Fields.mem_of_mem_ofList he)
    exact ih x hx

/-- A value in order stays as it is. -/
theorem Arranged.arrange_eq {v : Json} (h : Arranged v) : v.arrange = v := by
  induction h with
  | null | bool | number | string => rfl
  | array _ ih => rw [arrange_array, List.map_congr_left ih, List.map_id']
  | @object fields hfields _ ih =>
    have hvalues : mapValues arrange fields = fields := by
      rw [mapValues, List.map_congr_left fun e he => by rw [ih e he], List.map_id']
    rw [arrange_object, hvalues, ofEntries, hfields.ofList_eq]

/-! ## The same value -/

mutual

/-- Whether two values are the same, wherever their fields stand: arrays item by item, objects with as
many fields, key by key. -/
def same : Json → Json → Bool
  | .null, .null => true
  | .bool a, .bool b => a = b
  | .number a, .number b => a = b
  | .string a, .string b => a = b
  | .array a, .array b => sameItems a b
  | .object f, .object g => f.length = g.length && sameFields f g
  | _, _ => false

def sameItems : List Json → List Json → Bool
  | [], [] => true
  | v :: a, w :: b => same v w && sameItems a b
  | _, _ => false

/-- Whether each field has the same value in the other fields. -/
def sameFields : List (String × Json) → Fields → Bool
  | [], _ => true
  | (k, v) :: f, g => (match g.get? k with
    | some w => same v w
    | none => false) && sameFields f g

end

theorem sameFields_iff {f g : Fields} :
    sameFields f g ↔ ∀ e ∈ f, ∃ w, g.get? e.1 = some w ∧ same e.2 w := by
  induction f with
  | nil => simp [sameFields]
  | cons e f ih =>
    rw [sameFields, Bool.and_eq_true, ih, List.forall_mem_cons]
    refine and_congr_left fun _ => ?_
    cases g.get? e.1 <;> simp

theorem sameItems_iff {a b : List Json}
    (h : ∀ v ∈ a, ∀ w ∈ b, same v w ↔ v.arrange = w.arrange) :
    sameItems a b ↔ a.map arrange = b.map arrange := by
  induction a generalizing b with
  | nil => cases b <;> simp [sameItems]
  | cons v a ih =>
    cases b with
    | nil => simp [sameItems]
    | cons w b =>
      have hitems : sameItems a b ↔ a.map arrange = b.map arrange := ih fun v hv w hw =>
        h v (List.mem_cons_of_mem _ hv) w (List.mem_cons_of_mem _ hw)
      rw [sameItems, Bool.and_eq_true, h v List.mem_cons_self w List.mem_cons_self, hitems,
        List.map_cons, List.map_cons, List.cons.injEq]

/-- In order, fields are the same if each key has the same value. -/
private theorem ofList_arrange_eq_iff {f g : Fields} (hf : f.keys.Nodup) (hg : g.keys.Nodup) :
    Fields.ofList (mapValues arrange f) = Fields.ofList (mapValues arrange g) ↔
      ∀ k, (f.get? k).map arrange = (g.get? k).map arrange := by
  have get?_arranged : ∀ {a : Fields}, a.keys.Nodup → ∀ k,
      Fields.get? (Fields.ofList (mapValues arrange a)) k = (a.get? k).map arrange := by
    intro a ha k
    rw [Fields.get?_ofList, Fields.get?_reverse ((Fields.keys_mapValues arrange a).symm ▸ ha),
      Fields.get?_mapValues]
  constructor
  · intro h k
    rw [← get?_arranged hf, ← get?_arranged hg, h]
  · intro h
    refine (Fields.sorted_ofList _).ext (Fields.sorted_ofList _) fun k => ?_
    rw [get?_arranged hf, get?_arranged hg, h]

private theorem length_eq_of_keys {f g : Fields} (hf : f.keys.Nodup) (hg : g.keys.Nodup)
    (h : ∀ k, k ∈ f.keys ↔ k ∈ g.keys) : f.length = g.length := by
  have hperm : f.keys.Perm g.keys := (List.perm_ext_iff_of_nodup hf hg).mpr h
  simpa [Fields.keys] using hperm.length_eq

private theorem keys_subset {f g : Fields} (hf : f.keys.Nodup) (hlength : f.length = g.length)
    (h : f.keys ⊆ g.keys) : g.keys ⊆ f.keys := by
  refine ((List.subperm_of_subset hf h).perm_of_length_le ?_).symm.subset
  rw [Fields.keys, Fields.keys, List.length_map, List.length_map]
  exact Nat.le_of_eq hlength.symm

private theorem same_object_iff {f g : Fields} (hf : f.keys.Nodup) (hg : g.keys.Nodup)
    (h : ∀ e ∈ f, ∀ w, g.get? e.1 = some w → (same e.2 w ↔ e.2.arrange = w.arrange)) :
    same (.object f) (.object g) ↔ ∀ k, (f.get? k).map arrange = (g.get? k).map arrange := by
  rw [same, Bool.and_eq_true, decide_eq_true_iff, sameFields_iff]
  constructor
  · rintro ⟨hlength, hfields⟩ k
    have hsubset : f.keys ⊆ g.keys := by
      intro l hl
      obtain ⟨e, he, rfl⟩ := List.mem_map.mp hl
      obtain ⟨w, hw, -⟩ := hfields e he
      exact Fields.mem_keys (Fields.mem_of_get? hw)
    cases hk : f.get? k with
    | none =>
      have hnone : g.get? k = none := by
        rw [Fields.get?_eq_none_iff] at hk ⊢
        exact fun hmem => hk (keys_subset hf hlength hsubset hmem)
      rw [hnone]
    | some v =>
      obtain ⟨w, hw, hsame⟩ := hfields _ (Fields.mem_of_get? hk)
      rw [hw, Option.map_some, Option.map_some, (h _ (Fields.mem_of_get? hk) w hw).mp hsame]
  · intro hfields
    constructor
    · refine length_eq_of_keys hf hg fun k => not_iff_not.mp ?_
      rw [← Fields.get?_eq_none_iff, ← Fields.get?_eq_none_iff, ← Option.map_eq_none_iff, hfields,
        Option.map_eq_none_iff]
    · intro e he
      have hfound := hfields e.1
      rw [Fields.get?_of_mem hf he, Option.map_some, eq_comm, Option.map_eq_some_iff] at hfound
      obtain ⟨w, hw, heq⟩ := hfound
      exact ⟨w, hw, (h e he w hw).mpr heq.symm⟩

/-- In order, a value is the same if and only if it is equal. -/
theorem same_iff_arrange_eq {v w : Json} (hv : Proper v) (hw : Proper w) :
    same v w ↔ v.arrange = w.arrange := by
  induction v generalizing w with
  | null | bool | number | string => cases w <;> simp [same, arrange, ofEntries]
  | array a ih =>
    cases w with
    | array b =>
      rw [same, arrange_array, arrange_array, array.injEq]
      exact sameItems_iff fun v hmem w hmem' =>
        ih v hmem (everywhere_array_iff.mp hv v hmem) (everywhere_array_iff.mp hw w hmem')
    | null | bool | number | string | object => simp [same, arrange, ofEntries]
  | object f ih =>
    cases w with
    | object g =>
      obtain ⟨hf, hvalues⟩ := everywhere_object_iff.mp hv
      have hg := (everywhere_object_iff.mp hw).1
      rw [arrange_object, arrange_object, ofEntries, ofEntries, object.injEq,
        ofList_arrange_eq_iff hf hg]
      exact same_object_iff hf hg fun e he w hfound => ih e he (hvalues e he) (hw.get? hfound)
    | null | bool | number | string | array => simp [same, arrange, ofEntries]

/-! ## Values that are read -/

namespace Read

/-- If the reader answers with a value, its fields are in order. -/
private def InOrder (answer : Result Json) : Prop :=
  ∀ v r, answer = .ok (v, r) → Arranged v

private theorem inOrder_error (p : Problem) : InOrder (.error p) := by
  intro v r h
  cases h

private theorem inOrder_ok {v : Json} (h : Arranged v) (r : List Char) : InOrder (.ok (v, r)) := by
  intro _ _ heq
  obtain ⟨rfl, -⟩ := Prod.mk.inj (Except.ok.inj heq)
  exact h

private theorem inOrder_word {v : Json} (h : Arranged v) (expected s : List Char) :
    InOrder (word v expected s) := by
  induction expected generalizing s with
  | nil => exact inOrder_ok h s
  | cons c expected ih =>
    cases s with
    | nil => exact inOrder_error _
    | cons d s =>
      rw [word]
      split
      · exact ih s
      · exact inOrder_error _

private theorem inOrder_map {α : Type} {f : α → Json} (h : ∀ a, Arranged (f a)) (answer : Result α) :
    InOrder (answer.map fun (a, r) => (f a, r)) := by
  cases answer with
  | error p => exact inOrder_error p
  | ok x => exact inOrder_ok (h x.1) x.2

/-- One more turn: a value is in order if the lists and objects that its brackets open are. -/
private theorem inOrder_value_succ {care : Care} {fuel : Nat}
    (hitems : ∀ depth s, InOrder (items care fuel depth [] s))
    (hmembers : ∀ depth s, InOrder (members care fuel depth [] s)) (depth : Nat) (s : List Char) :
    InOrder (value care (fuel + 1) depth s) := by
  rw [value]
  split
  · exact inOrder_error _
  · exact inOrder_word .null _ _
  · exact inOrder_word (.bool true) _ _
  · exact inOrder_word (.bool false) _ _
  · exact inOrder_map Everywhere.number _
  · exact inOrder_map Everywhere.string _
  · split
    · exact inOrder_error _
    · split
      · exact inOrder_ok (.array (by simp)) _
      · exact hitems _ _
  · split
    · exact inOrder_error _
    · split
      · exact inOrder_ok (.object Fields.sorted_nil (by simp)) _
      · exact hmembers _ _
  · split
    · exact inOrder_map Everywhere.number _
    · exact inOrder_error _

private theorem inOrder_items_succ {care : Care} {fuel depth : Nat} {read : List Json}
    (hread : ∀ v ∈ read, Arranged v) (hvalue : ∀ s, InOrder (value care fuel depth s))
    (hitems : ∀ read s, (∀ v ∈ read, Arranged v) → InOrder (items care fuel depth read s))
    (s : List Char) : InOrder (items care (fuel + 1) depth read s) := by
  rw [items]
  split
  · exact inOrder_error _
  · rename_i v r hv
    have hread : ∀ w ∈ v :: read, Arranged w :=
      List.forall_mem_cons.mpr ⟨hvalue s v r hv, hread⟩
    split
    · exact hitems _ _ hread
    · exact inOrder_ok (.array fun w hw => hread w (List.mem_reverse.mp hw)) _
    · exact inOrder_error _
    · exact inOrder_error _

private theorem inOrder_members_succ {care : Care} {fuel depth : Nat} {read : Fields}
    (hread : Arranged (.object read)) (hvalue : ∀ s, InOrder (value care fuel depth s))
    (hmembers : ∀ read s, Arranged (.object read) → InOrder (members care fuel depth read s))
    (s : List Char) : InOrder (members care (fuel + 1) depth read s) := by
  rw [members]
  split
  · exact inOrder_error _
  · rename_i k _ _
    split
    · exact inOrder_error _
    · rename_i r _
      split
      · exact inOrder_error _
      · rename_i v _ hv
        have hread : Arranged (.object (read.insert k v)) :=
          hread.insert (hvalue r v _ hv)
            (Fields.sorted_insert (everywhere_object_iff.mp hread).1 k v)
        dsimp only
        split
        · exact hmembers _ _ hread
        · exact inOrder_ok hread _
        · exact inOrder_error _
        · exact inOrder_error _

private theorem inOrder (care : Care) (fuel : Nat) :
    (∀ depth s, InOrder (value care fuel depth s)) ∧
      (∀ depth read s, (∀ v ∈ read, Arranged v) → InOrder (items care fuel depth read s)) ∧
      ∀ depth read s, Arranged (.object read) → InOrder (members care fuel depth read s) := by
  induction fuel with
  | zero =>
    exact ⟨fun _ _ => inOrder_error _, fun _ _ _ _ => inOrder_error _, fun _ _ _ _ => inOrder_error _⟩
  | succ fuel ih =>
    obtain ⟨hvalue, hitems, hmembers⟩ := ih
    refine ⟨inOrder_value_succ (fun depth s => hitems depth [] s nofun) fun depth s =>
      hmembers depth [] s (.object Fields.sorted_nil nofun), ?_, ?_⟩
    · exact fun depth _ s hread => inOrder_items_succ hread (hvalue depth) (hitems depth) s
    · exact fun depth _ s hread => inOrder_members_succ hread (hvalue depth) (hmembers depth) s

end Read

/-- Every value that is read holds the fields of its objects in order, so no key stands twice. -/
theorem arranged_of_read {s : String} {v : Json} (h : read s = .ok v) : Arranged v := by
  rw [read] at h
  cases hany : Read.any Read.maxDepth s.toList with
  | error p =>
    rw [hany] at h
    cases h
  | ok answer =>
    rw [hany, Read.finish] at h
    split at h
    · obtain rfl := Except.ok.inj h
      exact (Read.inOrder .kept _).1 _ _ answer.1 answer.2 hany
    · cases h

end Json
end GraphLoad
