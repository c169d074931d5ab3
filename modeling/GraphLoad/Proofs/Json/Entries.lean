import GraphLoad.Json.Value

/-!
# Entries and what is found under a key

Lookups as membership, and fields that are written one entry after another: the last entry of a key
is the one found (`get?_ofList`), and entries under different keys all stay (`ofList_perm`).
-/

namespace GraphLoad.Fields

/-! ## Lookups -/

theorem mem_of_get? {fields : Fields} {key : String} {value : Json}
    (h : get? fields key = some value) : (key, value) ∈ fields := by
  induction fields with
  | nil => simp at h
  | cons e r ih =>
    rw [get?_cons] at h
    split at h
    · rename_i hk
      obtain rfl := Option.some.inj h
      exact hk ▸ List.mem_cons_self
    · exact List.mem_cons_of_mem _ (ih h)

theorem get?_eq_none_iff {fields : Fields} {key : String} :
    get? fields key = none ↔ key ∉ fields.keys := by
  induction fields with
  | nil => simp [keys]
  | cons e r ih =>
    rw [get?_cons, keys, List.map_cons, List.mem_cons, not_or]
    split
    · rename_i hk
      simp [hk]
    · rename_i hk
      rw [ih, keys]
      exact ⟨fun h => ⟨hk, h⟩, fun h => h.2⟩

theorem mem_keys {fields : Fields} {key : String} {value : Json} (h : (key, value) ∈ fields) :
    key ∈ fields.keys :=
  List.mem_map.mpr ⟨_, h, rfl⟩

/-- Where no key stands twice, an entry is found under its key. -/
theorem get?_of_mem {fields : Fields} {key : String} {value : Json} (hn : fields.keys.Nodup)
    (h : (key, value) ∈ fields) : get? fields key = some value := by
  induction fields with
  | nil => simp at h
  | cons e r ih =>
    obtain ⟨hnot, hr⟩ := List.nodup_cons.mp hn
    rw [get?_cons]
    rcases List.mem_cons.mp h with rfl | h
    · simp
    · have hk : key ≠ e.1 := by
        rintro rfl
        exact hnot (mem_keys h)
      rw [if_neg hk, ih hr h]

theorem get?_append (a b : Fields) (key : String) :
    get? (a ++ b) key = (get? a key).or (get? b key) := by
  induction a with
  | nil => simp
  | cons e r ih =>
    rw [List.cons_append, get?_cons, get?_cons, ih]
    split <;> simp

/-! ## Entries written one after another -/

theorem get?_reverse {fields : Fields} (hn : fields.keys.Nodup) (key : String) :
    get? fields.reverse key = get? fields key := by
  have hreverse : Fields.keys fields.reverse = fields.keys.reverse := List.map_reverse
  cases h : get? fields key with
  | none =>
    rw [get?_eq_none_iff] at h ⊢
    rwa [hreverse, List.mem_reverse]
  | some v =>
    refine get?_of_mem ?_ (List.mem_reverse.mpr (mem_of_get? h))
    rw [hreverse]
    exact List.Perm.nodup (List.reverse_perm _).symm hn

theorem get?_insertAll (fields entries : Fields) (key : String) :
    get? (insertAll fields entries) key = (get? entries.reverse key).or (get? fields key) := by
  induction entries generalizing fields with
  | nil => simp [insertAll]
  | cons e r ih =>
    rw [insertAll, List.foldl_cons, ← insertAll, ih, get?_insert, List.reverse_cons, get?_append,
      get?_cons, get?_nil, Option.or_assoc]
    split <;> simp

/-- Of several entries under one key the last is found. -/
theorem get?_ofList (entries : Fields) (key : String) :
    get? (ofList entries) key = get? entries.reverse key := by
  rw [ofList, get?_insertAll, get?_nil, Option.or_none]

theorem mem_keys_ofList {entries : Fields} {key : String} :
    key ∈ (ofList entries).keys ↔ key ∈ entries.keys := by
  have h : get? (ofList entries) key = none ↔ get? entries.reverse key = none := by
    rw [get?_ofList]
  rw [get?_eq_none_iff, get?_eq_none_iff] at h
  rw [Decidable.not_iff_not.mp h]
  simp [keys]

/-- Entries that agree under a key give their value to it. -/
theorem get?_ofList_of_agree {entries : Fields} {key : String} {value : Json}
    (h : (key, value) ∈ entries) (hagree : ∀ w, (key, w) ∈ entries → w = value) :
    get? (ofList entries) key = some value := by
  rw [get?_ofList]
  cases hw : get? entries.reverse key with
  | none => exact absurd (mem_keys (List.mem_reverse.mpr h)) (get?_eq_none_iff.mp hw)
  | some w => rw [hagree w (List.mem_reverse.mp (mem_of_get? hw))]

/-! ## Entries written twice -/

private theorem replace_comm {k l : String} (h : k ≠ l) (v w : Json) (fields : Fields) :
    replace k v (replace l w fields) = replace l w (replace k v fields) := by
  induction fields with
  | nil => rfl
  | cons e r ih => grind [replace]

private theorem isSome_get?_insert {fields : Fields} {k l : String} {v : Json}
    (h : (get? fields k).isSome) : (get? (insert l v fields) k).isSome := by
  rw [get?_insert]
  split
  · rfl
  · exact h

private theorem insert_comm {k l : String} {v w : Json} {fields : Fields} (h : k ≠ l)
    (hk : (get? fields k).isSome) (hl : (get? fields l).isSome) :
    insert k v (insert l w fields) = insert l w (insert k v fields) := by
  have hkl := isSome_get?_insert (l := l) (v := w) hk
  have hlk := isSome_get?_insert (l := k) (v := v) hl
  rw [insert, if_pos hkl, insert, if_pos hl, insert, if_pos hlk, insert, if_pos hk, replace_comm h]

/-- A write does not count if a later one goes over it. -/
private theorem insertAll_insert_of_mem {entries fields : Fields} {k : String} {v : Json}
    (hk : k ∈ entries.keys) (hfields : ∀ l ∈ entries.keys, (get? fields l).isSome) :
    insertAll (insert k v fields) entries = insertAll fields entries := by
  induction entries generalizing fields with
  | nil => exact absurd hk List.not_mem_nil
  | cons e r ih =>
    rw [insertAll, insertAll, List.foldl_cons, List.foldl_cons, ← insertAll, ← insertAll]
    by_cases he : k = e.1
    · subst he
      rw [insert_insert]
    · have hr : k ∈ keys r := (List.mem_cons.mp hk).resolve_left he
      have hkept : ∀ l ∈ keys r, (get? (insert e.1 e.2 fields) l).isSome := by
        intro l hl
        exact isSome_get?_insert (hfields l (List.mem_cons_of_mem _ hl))
      rw [insert_comm (Ne.symm he) (hfields e.1 List.mem_cons_self) (hfields k hk), ih hr hkept]

theorem isSome_get?_insertAll {fields entries : Fields} {k : String} (hk : k ∈ entries.keys) :
    (get? (insertAll fields entries) k).isSome := by
  have hfound : get? entries.reverse k ≠ none := by
    intro hnone
    refine get?_eq_none_iff.mp hnone ?_
    simpa [keys] using hk
  rw [get?_insertAll, Option.isSome_or, Option.isSome_iff_ne_none.mpr hfound, Bool.true_or]

/-- Entries that are written already may be written again. -/
theorem insertAll_insertAll (fields entries : Fields) :
    insertAll (insertAll fields entries) entries = insertAll fields entries := by
  induction entries generalizing fields with
  | nil => rfl
  | cons e r ih =>
    have hcons : ∀ fields, insertAll fields (e :: r) = insertAll (insert e.1 e.2 fields) r :=
      fun _ => rfl
    rw [hcons, hcons]
    by_cases he : e.1 ∈ keys r
    · rw [insertAll_insert_of_mem he fun _ => isSome_get?_insertAll, ih]
    · -- no later entry goes over this one, so its value stands already
      have hnone : get? r.reverse e.1 = none := by
        rw [get?_eq_none_iff]
        simpa [keys] using he
      have hstands : get? (insertAll (insert e.1 e.2 fields) r) e.1 = some e.2 := by
        rw [get?_insertAll, hnone, Option.none_or, get?_insert, if_pos rfl]
      rw [insert_eq_self hstands, ih]

theorem insertAll_append (fields a b : Fields) :
    insertAll fields (a ++ b) = insertAll (insertAll fields a) b :=
  List.foldl_append

theorem add_perm (key : String) (value : Json) (fields : Fields) :
    (add key value fields).Perm ((key, value) :: fields) := by
  induction fields with
  | nil => exact .refl _
  | cons e r ih =>
    rw [add]
    split
    · exact .refl _
    · exact (ih.cons e).trans (.swap (key, value) e r)

private theorem mem_of_mem_replace {e : String × Json} {key : String} {value : Json}
    {fields : Fields} (h : e ∈ replace key value fields) : e = (key, value) ∨ e ∈ fields := by
  induction fields with
  | nil => simp [replace] at h
  | cons f r ih => grind [replace]

theorem mem_of_mem_insert {e : String × Json} {key : String} {value : Json} {fields : Fields}
    (h : e ∈ insert key value fields) : e = (key, value) ∨ e ∈ fields := by
  unfold insert at h
  split at h
  · exact mem_of_mem_replace h
  · exact List.mem_cons.mp ((add_perm _ _ _).mem_iff.mp h)

theorem mem_of_mem_ofList {entries : Fields} {e : String × Json} (h : e ∈ ofList entries) :
    e ∈ entries := by
  have key : ∀ fields : Fields, e ∈ insertAll fields entries → e ∈ entries ∨ e ∈ fields := by
    clear h
    induction entries with
    | nil => exact fun _ h => .inr h
    | cons f r ih =>
      intro fields h
      rcases ih _ h with h | h
      · exact .inl (List.mem_cons_of_mem _ h)
      · rcases mem_of_mem_insert h with rfl | h
        · exact .inl List.mem_cons_self
        · exact .inr h
  exact (key [] h).resolve_right List.not_mem_nil

/-- Entries under different keys all stay. -/
theorem ofList_perm {entries : Fields} (h : entries.keys.Nodup) : (ofList entries).Perm entries := by
  have key : ∀ fields : Fields, (∀ k ∈ entries.keys, get? fields k = none) →
      (insertAll fields entries).Perm (entries ++ fields) := by
    induction entries with
    | nil => exact fun _ _ => .refl _
    | cons e r ih =>
      intro fields hfields
      obtain ⟨hnot, hr⟩ := List.nodup_cons.mp h
      have hnone : get? fields e.1 = none := hfields e.1 List.mem_cons_self
      have hins : insert e.1 e.2 fields = add e.1 e.2 fields := by simp [insert, hnone]
      have hrest : ∀ k ∈ keys r, get? (insert e.1 e.2 fields) k = none := by
        intro k hk
        have hne : k ≠ e.1 := by
          rintro rfl
          exact hnot hk
        rw [get?_insert, if_neg hne]
        exact hfields k (List.mem_cons_of_mem _ hk)
      rw [insertAll, List.foldl_cons, ← insertAll]
      refine (ih hr _ hrest).trans ?_
      rw [hins]
      exact ((add_perm e.1 e.2 fields).append_left r).trans List.perm_middle
  have := key [] (fun _ _ => rfl)
  rwa [List.append_nil] at this

theorem length_ofList {entries : Fields} (h : entries.keys.Nodup) :
    (ofList entries).length = entries.length :=
  (ofList_perm h).length_eq

theorem keys_replace (key : String) (value : Json) (fields : Fields) :
    keys (replace key value fields) = fields.keys := by
  induction fields with
  | nil => rfl
  | cons e r ih =>
    rw [replace]
    split
    · rename_i hk
      rw [keys, keys, List.map_cons, List.map_cons, hk]
    · exact congrArg (e.1 :: ·) ih

theorem keys_add_perm (key : String) (value : Json) (fields : Fields) :
    (keys (add key value fields)).Perm (key :: fields.keys) :=
  (add_perm key value fields).map Prod.fst

/-- Where no key stands twice, none does after a write. -/
theorem nodup_keys_insert {fields : Fields} (h : fields.keys.Nodup) (key : String) (value : Json) :
    (keys (insert key value fields)).Nodup := by
  rw [insert]
  split
  · rwa [keys_replace]
  · rename_i hnone
    have hkey : key ∉ fields.keys := get?_eq_none_iff.mp (by simpa using hnone)
    exact (keys_add_perm key value fields).nodup_iff.mpr (List.nodup_cons.mpr ⟨hkey, h⟩)

/-! ## Other values under the same keys -/

/-- The fields with each value replaced by the one that a function gives for it. -/
def mapValues (f : Json → Json) (fields : Fields) : Fields :=
  fields.map fun e => (e.1, f e.2)

variable (f : Json → Json) (fields : Fields) (key : String) (value : Json)

@[simp]
theorem mapValues_cons (e : String × Json) (r : Fields) :
    mapValues f (e :: r) = (e.1, f e.2) :: mapValues f r :=
  List.map_cons

@[simp]
theorem mapValues_append (a b : Fields) :
    mapValues f (a ++ b) = mapValues f a ++ mapValues f b :=
  List.map_append

@[simp]
theorem keys_mapValues : (mapValues f fields).keys = fields.keys := by
  rw [mapValues, keys, List.map_map]
  rfl

@[simp]
theorem get?_mapValues : get? (mapValues f fields) key = (get? fields key).map f := by
  induction fields with
  | nil => rfl
  | cons e r ih =>
    rw [mapValues_cons, get?_cons, get?_cons, ih]
    split <;> rfl

theorem replace_mapValues :
    replace key (f value) (mapValues f fields) = mapValues f (replace key value fields) := by
  induction fields with
  | nil => rfl
  | cons e r ih =>
    rw [mapValues_cons, replace, replace, ih]
    split <;> rfl

theorem add_mapValues :
    add key (f value) (mapValues f fields) = mapValues f (add key value fields) := by
  induction fields with
  | nil => rfl
  | cons e r ih =>
    rw [mapValues_cons, add, add, ih]
    split <;> rfl

/-- Where an entry is written depends on its key alone. -/
theorem insert_mapValues :
    insert key (f value) (mapValues f fields) = mapValues f (insert key value fields) := by
  rw [insert, insert, get?_mapValues, Option.isSome_map]
  split
  · exact replace_mapValues f fields key value
  · exact add_mapValues f fields key value

theorem insertAll_mapValues (entries : Fields) :
    insertAll (mapValues f fields) (mapValues f entries) =
      mapValues f (insertAll fields entries) := by
  induction entries generalizing fields with
  | nil => rfl
  | cons e r ih =>
    rw [mapValues_cons, insertAll, List.foldl_cons, ← insertAll, insert_mapValues, ih]
    rfl

theorem ofList_mapValues (entries : Fields) :
    ofList (mapValues f entries) = mapValues f (ofList entries) :=
  insertAll_mapValues f [] entries

end GraphLoad.Fields
