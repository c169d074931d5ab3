import Mathlib.Data.List.Forall2

/-!
# Traversals that may fail

A list is gone through in order until an element fails. `mapM_eq_ok_iff` says what a traversal gives
that comes to its end, `mapM_eq_error_iff` that else the first failure is the one reported. A single
step that has come to its end is taken apart by `map_eq_ok_iff` and `bind_eq_ok_iff`.
-/

namespace GraphLoad.Traversal

variable {α β γ ε : Type} {f : α → Except ε β} {l : List α}

theorem map_eq_ok_iff {x : Except ε α} {k : α → β} {y : β} :
    x.map k = .ok y ↔ ∃ v, x = .ok v ∧ k v = y := by
  cases x <;> simp [Except.map]

theorem bind_eq_ok_iff {x : Except ε α} {k : α → Except ε β} {y : β} :
    x >>= k = .ok y ↔ ∃ v, x = .ok v ∧ k v = .ok y := by
  cases x <;> simp [bind, Except.bind]

theorem mapM_cons_of_ok {x : α} {y : β} (h : f x = .ok y) (l : List α) :
    (x :: l).mapM f = (l.mapM f).map (y :: ·) := by
  rw [List.mapM_cons, h]
  cases l.mapM f <;> rfl

theorem mapM_cons_of_error {x : α} {e : ε} (h : f x = .error e) (l : List α) :
    (x :: l).mapM f = .error e := by
  rw [List.mapM_cons, h]
  rfl

theorem mapM_eq_ok_iff {ys : List β} :
    l.mapM f = .ok ys ↔ List.Forall₂ (fun x y => f x = .ok y) l ys := by
  induction l generalizing ys with
  | nil => simp [pure, Except.pure, eq_comm]
  | cons x r ih =>
    rw [List.forall₂_cons_left_iff]
    cases hx : f x with
    | error e =>
      rw [mapM_cons_of_error hx]
      simp
    | ok y =>
      rw [mapM_cons_of_ok hx]
      cases hr : r.mapM f with
      | error e =>
        have hnone : ∀ zs, ¬List.Forall₂ (fun x y => f x = .ok y) r zs := fun zs h => by
          rw [ih.mpr h] at hr
          cases hr
        simp [Except.map, hnone]
      | ok zs =>
        constructor
        · intro h
          cases h
          exact ⟨y, zs, rfl, ih.mp hr, rfl⟩
        · rintro ⟨w, ws, hw, hws, rfl⟩
          obtain rfl := Except.ok.inj hw
          obtain rfl := Except.ok.inj (hr.symm.trans (ih.mpr hws))
          rfl

/-- Where every element is checked on its own, all of them have to pass. -/
theorem mapM_eq_ok_iff_forall {P : α → Prop} {k : α → β} (h : ∀ x y, f x = .ok y ↔ P x ∧ k x = y)
    {ys : List β} : l.mapM f = .ok ys ↔ (∀ x ∈ l, P x) ∧ l.map k = ys := by
  simp only [mapM_eq_ok_iff, h]
  rw [List.forall₂_and_left, ← List.forall₂_map_left_iff (R := Eq) (f := k), List.forall₂_eq_eq_eq]

/-- An error is that of the first element that fails. -/
theorem mapM_eq_error_iff {e : ε} :
    l.mapM f = .error e ↔ ∃ before x after, l = before ++ x :: after ∧
      (∀ b ∈ before, ∃ y, f b = .ok y) ∧ f x = .error e := by
  induction l with
  | nil =>
    constructor
    · intro h
      cases h
    · rintro ⟨before, x, after, h, -⟩
      exact absurd h.symm (List.append_ne_nil_of_right_ne_nil before (List.cons_ne_nil x after))
  | cons x r ih =>
    cases hx : f x with
    | error d =>
      rw [mapM_cons_of_error hx]
      constructor
      · intro h
        cases h
        exact ⟨[], x, r, rfl, nofun, hx⟩
      · rintro ⟨before, z, after, hl, hbefore, hz⟩
        cases before with
        | nil =>
          obtain ⟨rfl, rfl⟩ := List.cons.inj hl
          rw [Except.error.inj (hx.symm.trans hz)]
        | cons b before =>
          obtain ⟨rfl, rfl⟩ := List.cons.inj hl
          obtain ⟨y, hy⟩ := hbefore x List.mem_cons_self
          rw [hx] at hy
          cases hy
    | ok y =>
      have hcons : (x :: r).mapM f = .error e ↔ r.mapM f = .error e := by
        rw [mapM_cons_of_ok hx]
        cases r.mapM f <;> simp [Except.map]
      rw [hcons, ih]
      constructor
      · rintro ⟨before, z, after, rfl, hbefore, hz⟩
        exact ⟨x :: before, z, after, rfl, List.forall_mem_cons.mpr ⟨⟨y, hx⟩, hbefore⟩, hz⟩
      · rintro ⟨before, z, after, hl, hbefore, hz⟩
        cases before with
        | nil =>
          obtain ⟨rfl, rfl⟩ := List.cons.inj hl
          rw [hx] at hz
          cases hz
        | cons b before =>
          obtain ⟨rfl, rfl⟩ := List.cons.inj hl
          exact ⟨before, z, after, rfl, (List.forall_mem_cons.mp hbefore).2, hz⟩

/-- What is done to every result may as well be done to all of them in the end. -/
theorem mapM_map_result (k : β → γ) (f : α → Except ε β) (l : List α) :
    (l.mapM fun x => (f x).map k) = (l.mapM f).map (List.map k) := by
  induction l with
  | nil => rfl
  | cons x r ih =>
    rw [List.mapM_cons, List.mapM_cons, ih]
    cases f x with
    | error e => rfl
    | ok y => cases r.mapM f <;> rfl

theorem mapM_congr {g : α → Except ε β} (h : ∀ x ∈ l, f x = g x) : l.mapM f = l.mapM g := by
  induction l with
  | nil => rfl
  | cons x r ih =>
    obtain ⟨hx, hr⟩ := List.forall_mem_cons.mp h
    rw [List.mapM_cons, List.mapM_cons, hx, ih hr]

end GraphLoad.Traversal
