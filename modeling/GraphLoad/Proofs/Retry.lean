import GraphLoad.Proofs.Action
import GraphLoad.Retry
import Mathlib.Data.ENat.Lattice

/-!
# Attempts and waits

Attempts are made up to the first that succeeds, and no more than are allowed. Between two of them the
timer is asked for one wait, which doubles each time up to the longest that can be asked for.
`connect_attempts` says so whatever the attempts come to: their outcomes may depend in any way on a
state that they change.
-/

namespace GraphLoad.Retry

open GraphLoad.Action (gives_pure gives_emit)

variable {σ α : Type}

/-! ## Outcomes -/

/-- The state behind a number of attempts. -/
def after (attempt : σ → Except Failure α × σ) (s : σ) : Nat → σ
  | 0 => s
  | n + 1 => after attempt (attempt s).2 n

/-- The outcome of the attempt that has a number of others before it. -/
def outcome (attempt : σ → Except Failure α × σ) (s : σ) (n : Nat) : Except Failure α :=
  (attempt (after attempt s n)).1

/-- Which attempt is the first that succeeds, counted from one; infinite if none does. -/
noncomputable def firstSuccess (outcomes : Nat → Except Failure α) : ℕ∞ :=
  ⨅ (n : Nat) (_ : (outcomes n).isOk), (n + 1 : ℕ∞)

section

variable {outcomes : Nat → Except Failure α}

theorem firstSuccess_eq_min (outcomes : Nat → Except Failure α) :
    firstSuccess outcomes =
      min (⨅ _ : (outcomes 0).isOk, 1) (firstSuccess (fun n => outcomes (n + 1)) + 1) := by
  rw [firstSuccess, ← inf_iInf_nat_succ, firstSuccess, ENat.iInf₂_add]
  simp

theorem one_le_firstSuccess (outcomes : Nat → Except Failure α) : 1 ≤ firstSuccess outcomes :=
  le_iInf₂ fun _ _ => le_add_self

theorem firstSuccess_of_ok {c : α} (h : outcomes 0 = .ok c) : firstSuccess outcomes = 1 := by
  have hfirst : (⨅ _ : (outcomes 0).isOk, (1 : ℕ∞)) = 1 := iInf_pos (by rw [h]; rfl)
  rw [firstSuccess_eq_min, hfirst, min_eq_left le_add_self]

theorem firstSuccess_of_error {f : Failure} (h : outcomes 0 = .error f) :
    firstSuccess outcomes = firstSuccess (fun n => outcomes (n + 1)) + 1 := by
  have hfirst : (⨅ _ : (outcomes 0).isOk, (1 : ℕ∞)) = ⊤ := iInf_neg (by rw [h]; exact nofun)
  rw [firstSuccess_eq_min, hfirst, min_eq_right le_top]

end

/-! ## Events -/

/-- Attempts and waits are seen, the log is not. -/
def unlogged? : Event → Option Event
  | .log _ => none
  | event => some event

/-- A number of attempts, the first of them with the given number, and between two of them a wait. -/
def course (first number : Nat) : List Event :=
  ((List.range' first number).flatMap fun i =>
    [.attempt, .wait (min (2 ^ (i - 1)) (2 ^ 64 - 1))]).dropLast

example : course 1 3 = [.attempt, .wait 1, .attempt, .wait 2, .attempt] := by
  decide

theorem course_add_two (first number : Nat) :
    course first (number + 2) =
      [.attempt, .wait (waitAfter first)] ++ course (first + 1) (number + 1) := by
  have hne : ((List.range' (first + 1) (number + 1)).flatMap fun i =>
      [Event.attempt, .wait (min (2 ^ (i - 1)) (2 ^ 64 - 1))]) ≠ [] := by
    simp [List.range'_succ]
  rw [course, List.range'_succ, List.flatMap_cons, List.dropLast_append_of_ne_nil hne,
    waitAfter_eq_min]
  rfl

/-! ## What comes of the attempts -/

/-- What is told of attempts with these outcomes, of which a number is allowed: the first success, or
the last failure, or that there was no attempt. -/
inductive Settled (service : String) (total : Nat) :
    (allowed : Nat) → (outcomes : Nat → Except Failure α) → Except Problem α → Prop
  | connected {allowed n : Nat} {outcomes : Nat → Except Failure α} {c : α} :
    firstSuccess outcomes = n + 1 → n + 1 ≤ allowed → outcomes n = .ok c →
      Settled service total allowed outcomes (.ok c)
  | noAttempts {outcomes : Nat → Except Failure α} :
    Settled service total 0 outcomes (.error (.noAttempts service))
  | exhausted {n : Nat} {outcomes : Nat → Except Failure α} {f : Failure} :
    n + 1 < firstSuccess outcomes → outcomes n = .error f →
      Settled service total (n + 1) outcomes (.error (.exhausted service total f))

section

variable {service : String} {total allowed : Nat} {outcomes : Nat → Except Failure α} {f : Failure}
  {value : Except Problem α}

theorem Settled.of_error (hfirst : outcomes 0 = .error f)
    (h : Settled service total (allowed + 1) (fun n => outcomes (n + 1)) value) :
    Settled service total (allowed + 2) outcomes value := by
  have hsuccess := firstSuccess_of_error hfirst
  cases h with
  | @connected _ n _ c hn hle hc =>
    refine .connected (n := n + 1) ?_ (by omega) hc
    rw [hsuccess, hn]
    rfl
  | exhausted hlt hf =>
    refine .exhausted ?_ hf
    rw [hsuccess]
    exact ENat.add_lt_add_iff_right ENat.one_ne_top |>.mpr hlt

theorem Settled.isOk_iff (h : Settled service total allowed outcomes value) :
    value.isOk ↔ firstSuccess outcomes ≤ allowed := by
  cases h with
  | connected hn hle hc =>
    rw [hn]
    exact ⟨fun _ => by exact_mod_cast hle, fun _ => rfl⟩
  | noAttempts =>
    refine ⟨nofun, fun hle => ?_⟩
    have := (one_le_firstSuccess outcomes).trans hle
    simp at this
  | exhausted hlt hf => exact ⟨nofun, fun hle => absurd hlt (not_lt.mpr hle)⟩

end

/-- Attempts from a state on, the first of them with the given number. -/
theorem connectFrom_attempts (service target : String) (total : Nat)
    (attempt : σ → Except Failure α × σ) (allowed number : Nat) (s : σ) :
    ∃ (made : Nat) (value : Except Problem α),
      made = min (firstSuccess (outcome attempt s)) allowed ∧
      (connectFrom service target total attempt allowed number).Gives unlogged? s value
        (course number made) (after attempt s made) ∧
      Settled service total allowed (outcome attempt s) value := by
  induction allowed generalizing number s with
  | zero => exact ⟨0, _, by simp, gives_pure _ s, .noAttempts⟩
  | succ allowed ih =>
    have hdial : (dial attempt).Gives unlogged? s (outcome attempt s 0) [.attempt] (attempt s).2 :=
      ⟨rfl, rfl, rfl⟩
    have hannounce : (Action.emit [.log <| announcement service target number total]).Gives
        unlogged? s () [] s := gives_emit _ s
    rw [connectFrom]
    cases hfirst : outcome attempt s 0 with
    | ok c =>
      rw [hfirst] at hdial
      have hsuccess := firstSuccess_of_ok hfirst
      refine ⟨1, .ok c, ?_, hannounce.bind (hdial.bind ((gives_emit _ _).bind (gives_pure _ _))), ?_⟩
      · rw [hsuccess, min_eq_left]
        · rfl
        · push_cast; exact le_add_self
      · exact .connected (n := 0) (by rw [hsuccess]; rfl) (by omega) hfirst
    | error f =>
      rw [hfirst] at hdial
      have hsuccess := firstSuccess_of_error hfirst
      obtain _ | allowed := allowed
      · have hlt : 1 < firstSuccess (outcome attempt s) := by
          rw [hsuccess]
          exact ENat.add_lt_add_iff_right ENat.one_ne_top |>.mpr
            (zero_lt_one.trans_le (one_le_firstSuccess _))
        refine ⟨1, _, ?_, hannounce.bind (hdial.bind ((gives_emit _ _).bind (gives_pure _ _))), ?_⟩
        · exact (min_eq_right hlt.le).symm
        · exact .exhausted hlt hfirst
      · obtain ⟨made, value, hmade, hgives, hsettled⟩ := ih (number + 1) (attempt s).2
        obtain _ | made := made
        · -- at least one attempt is made if one is allowed
          have hmin : (1 : ℕ∞) ≤ ((0 : ℕ) : ℕ∞) :=
            hmade ▸ le_min (one_le_firstSuccess _) (by exact_mod_cast Nat.le_add_left 1 allowed)
          simp at hmin
        refine ⟨made + 2, value, ?_, ?_, hsettled.of_error hfirst⟩
        · rw [hsuccess]
          calc ((made + 2 : ℕ) : ℕ∞) = ((made + 1 : ℕ) : ℕ∞) + 1 := rfl
            _ = min (firstSuccess (outcome attempt (attempt s).2) + 1) ((allowed + 1 : ℕ) + 1) := by
              rw [hmade, min_add_add_right]
        · rw [course_add_two]
          exact hannounce.bind (hdial.bind ((gives_emit _ _).bind hgives))

/-- Connecting makes as many attempts as there are up to the first success, but not more than are
allowed. It gives that success if it was allowed, else the last failure, and waits between attempts. -/
theorem connect_attempts (service target : String) (total : Nat)
    (attempt : σ → Except Failure α × σ) (s : σ) :
    ∃ (made : Nat) (value : Except Problem α),
      made = min (firstSuccess (outcome attempt s)) total ∧
      (connect service target total attempt).Gives unlogged? s value (course 1 made)
        (after attempt s made) ∧
      Settled service total total (outcome attempt s) value ∧
      (value.isOk ↔ firstSuccess (outcome attempt s) ≤ total) := by
  obtain ⟨made, value, hmade, hgives, hsettled⟩ :=
    connectFrom_attempts service target total attempt total 1 s
  exact ⟨made, value, hmade, hgives, hsettled, hsettled.isOk_iff⟩

end GraphLoad.Retry
