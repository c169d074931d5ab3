import Mathlib.Data.List.Basic

/-!
# Changing what is there, or adding what is not

A write goes to all items of a list under one key, or adds an item if there is none. Once a list of
writes has been run, running it again leaves every item as it is and adds none
(`Upsert.Stable.run_run`), if a change keeps the key and changes made twice in a row count once
(`Upsert.Stable`).
-/

namespace GraphLoad

/-- How items are told apart, what a new one is like, and how one is changed. -/
structure Upsert (α κ β : Type) where
  /-- The key that an item is under, if any. -/
  key : α → Option κ
  fresh : κ → α
  change : β → α → α

namespace Upsert

variable {α κ β : Type} (u : Upsert α κ β)

/-- A new item is under its key, the changes of these writes keep the key, and changes that are made
already may be made again. -/
structure Stable (writes : List (κ × β)) : Prop where
  key_fresh : ∀ c, u.key (u.fresh c) = some c
  key_change : ∀ w ∈ writes, ∀ a, u.key a = some w.1 → u.key (u.change w.2 a) = some w.1
  again : ∀ (bs : List β) (a : α),
    bs.foldl (fun a b => u.change b a) (bs.foldl (fun a b => u.change b a) a) =
      bs.foldl (fun a b => u.change b a) a

def Found (writes : List (κ × β)) (items : List α) : Prop :=
  ∀ w ∈ writes, ∃ a ∈ items, u.key a = some w.1

section

variable {u} {w : κ × β} {writes : List (κ × β)} {items : List α}

theorem Stable.tail (h : u.Stable (w :: writes)) : u.Stable writes where
  key_fresh := h.key_fresh
  key_change v hv := h.key_change v (List.mem_cons_of_mem _ hv)
  again := h.again

theorem Found.map {f : α → α} (hf : ∀ a, u.key (f a) = u.key a) (h : u.Found writes items) :
    u.Found writes (items.map f) := by
  intro w hw
  obtain ⟨a, ha, hkey⟩ := h w hw
  exact ⟨f a, List.mem_map_of_mem ha, (hf a).trans hkey⟩

end

variable [DecidableEq κ]

def visit (w : κ × β) (a : α) : α :=
  if u.key a = some w.1 then u.change w.2 a else a

/-- The items behind a write: those under its key are changed, or one is added. -/
def write (items : List α) (w : κ × β) : List α :=
  if items.any fun a => u.key a = some w.1 then items.map (u.visit w)
  else items ++ [u.change w.2 (u.fresh w.1)]

def run (writes : List (κ × β)) (items : List α) : List α :=
  writes.foldl u.write items

/-- What the writes make of one item. -/
def settle (writes : List (κ × β)) (a : α) : α :=
  writes.foldl (fun a w => u.visit w a) a

variable {u} {w : κ × β} {writes : List (κ × β)} {items : List α} {a : α}

theorem Stable.key_visit (h : u.Stable writes) (hw : w ∈ writes) (a : α) :
    u.key (u.visit w a) = u.key a := by
  rw [visit]
  split
  · rename_i ha
    rw [h.key_change w hw a ha, ha]
  · rfl

theorem Stable.key_settle (h : u.Stable writes) (a : α) : u.key (u.settle writes a) = u.key a := by
  induction writes generalizing a with
  | nil => rfl
  | cons w writes ih =>
    rw [settle, List.foldl_cons, ← settle, ih h.tail, h.key_visit List.mem_cons_self]

/-- Only the writes under its key change an item. -/
theorem Stable.settle_eq (h : u.Stable writes) (a : α) :
    u.settle writes a =
      ((writes.filter fun w => u.key a = some w.1).map Prod.snd).foldl
        (fun a b => u.change b a) a := by
  induction writes generalizing a with
  | nil => rfl
  | cons w writes ih =>
    rw [settle, List.foldl_cons, ← settle, ih h.tail, h.key_visit List.mem_cons_self]
    by_cases ha : u.key a = some w.1
    · rw [List.filter_cons_of_pos (by simpa using ha), List.map_cons, List.foldl_cons, visit,
        if_pos ha]
    · rw [List.filter_cons_of_neg (by simpa using ha), visit, if_neg ha]

theorem Stable.settle_settle (h : u.Stable writes) (a : α) :
    u.settle writes (u.settle writes a) = u.settle writes a := by
  rw [h.settle_eq (u.settle writes a), h.key_settle, h.settle_eq a, h.again]

theorem length_le_write (u : Upsert α κ β) (items : List α) (w : κ × β) :
    items.length ≤ (u.write items w).length := by
  rw [write]
  split
  · exact Nat.le_of_eq (List.length_map _).symm
  · rw [List.length_append]
    exact Nat.le_add_right _ _

theorem length_le_run (u : Upsert α κ β) (writes : List (κ × β)) (items : List α) :
    items.length ≤ (u.run writes items).length := by
  induction writes generalizing items with
  | nil => exact Nat.le_refl _
  | cons w writes ih => exact Nat.le_trans (u.length_le_write items w) (ih _)

/-! ## A run, item by item -/

theorem run_of_found (h : u.Stable writes) (hfound : u.Found writes items) :
    u.run writes items = items.map (u.settle writes) := by
  induction writes generalizing items with
  | nil => exact (List.map_id items).symm
  | cons w writes ih =>
    have hany : items.any fun a => u.key a = some w.1 := by
      simpa using hfound w List.mem_cons_self
    have hrest : u.Found writes (items.map (u.visit w)) :=
      Found.map (h.key_visit List.mem_cons_self) fun v hv => hfound v (List.mem_cons_of_mem _ hv)
    rw [run, List.foldl_cons, write, if_pos hany, ← run, ih h.tail hrest, List.map_map]
    rfl

theorem Stable.visit_fresh (h : u.Stable writes) {added : List κ} (hne : ∀ c ∈ added, c ≠ w.1) :
    (added.map u.fresh).map (u.visit w) = added.map u.fresh := by
  rw [List.map_map]
  refine List.map_congr_left fun c hc => ?_
  rw [Function.comp_apply, visit, h.key_fresh, if_neg]
  exact fun heq => hne c hc (Option.some.inj heq)

/-- A write is a visit of the items, among which it finds one: those that were there, and perhaps a
new one. -/
theorem Stable.exists_write (h : u.Stable writes) (w : κ × β) (items : List α) :
    ∃ new : List κ, (∀ c ∈ new, ∀ a ∈ items, u.key a ≠ some c) ∧
      (∃ a ∈ items ++ new.map u.fresh, u.key a = some w.1) ∧
      u.write items w = (items ++ new.map u.fresh).map (u.visit w) := by
  by_cases hany : items.any fun a => u.key a = some w.1
  · refine ⟨[], nofun, ?_, ?_⟩
    · simpa using hany
    · rw [write, if_pos hany, List.map_nil, List.append_nil]
  · have hnone : ∀ a ∈ items, u.key a ≠ some w.1 := by simpa using hany
    have hitems : items.map (u.visit w) = items := by
      conv_rhs => rw [← List.map_id items]
      refine List.map_congr_left fun a ha => ?_
      rw [visit, if_neg (hnone a ha), id]
    refine ⟨[w.1], ?_, ?_, ?_⟩
    · intro c hc
      rw [List.mem_singleton.mp hc]
      exact hnone
    · exact ⟨u.fresh w.1, List.mem_append_right _ List.mem_cons_self, h.key_fresh w.1⟩
    · rw [write, if_neg hany, List.map_append, hitems, List.map_singleton, List.map_singleton, visit,
        if_pos (h.key_fresh w.1)]

/-- A run is one over items among which every write finds one: those that were there, and the new
ones as they were added. -/
theorem Stable.exists_run (h : u.Stable writes) (items : List α) :
    ∃ added : List κ, (∀ c ∈ added, ∀ a ∈ items, u.key a ≠ some c) ∧
      u.Found writes (items ++ added.map u.fresh) ∧
      u.run writes items = (items ++ added.map u.fresh).map (u.settle writes) := by
  induction writes generalizing items with
  | nil => exact ⟨[], nofun, nofun, by rw [List.map_nil, List.append_nil]; exact (List.map_id _).symm⟩
  | cons w writes ih =>
    obtain ⟨new, hnew, ⟨b, hb, hbkey⟩, hwrite⟩ := h.exists_write w items
    obtain ⟨added, hadded, hfound, hrun⟩ := ih h.tail (u.write items w)
    have hkey := h.key_visit (w := w) List.mem_cons_self
    rw [hwrite] at hadded hfound hrun
    have hother : ∀ c ∈ added, ∀ a ∈ items ++ new.map u.fresh, u.key a ≠ some c := by
      intro c hc a ha
      rw [← hkey]
      exact hadded c hc _ (List.mem_map_of_mem ha)
    -- the items that are added later are under other keys
    have hlater : (added.map u.fresh).map (u.visit w) = added.map u.fresh := by
      refine h.visit_fresh fun c hc heq => hother c hc b hb ?_
      rw [heq, hbkey]
    have hall : (items ++ new.map u.fresh).map (u.visit w) ++ added.map u.fresh =
        (items ++ (new ++ added).map u.fresh).map (u.visit w) := by
      simp only [List.map_append, List.append_assoc, hlater]
    rw [hall] at hfound hrun
    refine ⟨new ++ added, ?_, ?_, ?_⟩
    · intro c hc a ha
      rcases List.mem_append.mp hc with hc | hc
      · exact hnew c hc a ha
      · exact hother c hc a (List.mem_append_left _ ha)
    · intro v hv
      rcases List.mem_cons.mp hv with rfl | hv
      · refine ⟨b, ?_, hbkey⟩
        rw [List.map_append, ← List.append_assoc]
        exact List.mem_append_left _ hb
      · obtain ⟨a', ha', hav⟩ := hfound v hv
        obtain ⟨a, ha, rfl⟩ := List.mem_map.mp ha'
        exact ⟨a, ha, (hkey a).symm.trans hav⟩
    · rw [run, List.foldl_cons, ← run, hwrite, hrun, List.map_map]
      rfl

/-- Writes that have been run change nothing when they are run again. -/
theorem Stable.run_run (h : u.Stable writes) (items : List α) :
    u.run writes (u.run writes items) = u.run writes items := by
  obtain ⟨added, -, hfound, hrun⟩ := h.exists_run items
  rw [hrun, run_of_found h (hfound.map h.key_settle), List.map_map]
  refine List.map_congr_left fun a _ => ?_
  exact h.settle_settle a

end Upsert
end GraphLoad
