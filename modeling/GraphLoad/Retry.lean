import GraphLoad.Action
import GraphLoad.Failure
import GraphLoad.Log

/-!
Connecting to a service that may not be up yet. Attempts are made until one succeeds or none is
left; after one that fails, and before the next, there is a wait that doubles each time.
-/

namespace GraphLoad

inductive Retry.Event where
  | log (entry : Log.Entry)
  | attempt
  /-- A wait is asked for. -/
  | wait (seconds : Nat)
deriving DecidableEq, Repr

inductive Retry.Problem where
  /-- Not a single attempt was allowed. -/
  | noAttempts (service : String)
  /-- All attempts failed, the last one so. -/
  | exhausted (service : String) (attempts : Nat) (last : Failure)
deriving DecidableEq, Repr

namespace Retry

def Problem.message : Problem → String
  | noAttempts service => s!"Failed to connect to {service}: no attempts allowed"
  | exhausted service attempts last =>
    s!"{service} connection failed after {attempts} retries: {last.full}"

/-- The longest wait in seconds. -/
def maxWait : Nat := Nat.pow 2 64 - 1

/-- The seconds to wait after a failed attempt: 1, 2, 4 and so on, up to the longest wait. -/
def waitAfter (attempt : Nat) : Nat :=
  if attempt ≤ 64 then Nat.pow 2 (attempt - 1) else maxWait

theorem waitAfter_eq_min (attempt : Nat) :
    waitAfter attempt = min (Nat.pow 2 (attempt - 1)) maxWait := by
  unfold waitAfter
  split
  · rename_i h
    have : Nat.pow 2 (attempt - 1) ≤ Nat.pow 2 63 := Nat.pow_le_pow_right (by decide) (by omega)
    rw [Nat.min_eq_left (Nat.le_trans this (by decide))]
  · rename_i h
    have : Nat.pow 2 64 ≤ Nat.pow 2 (attempt - 1) := Nat.pow_le_pow_right (by decide) (by omega)
    rw [Nat.min_eq_right (Nat.le_trans (by decide) this)]

/-- The longest time in seconds that a timer runs: thirty years of 365 days. -/
def maxSleep : Nat := 86400 * 365 * 30

/-- The seconds for which a wait lasts: those asked for, as far as a timer runs. -/
def slept (seconds : Nat) : Nat := min seconds maxSleep

variable {σ α : Type}

abbrev Step (σ α : Type) := Action σ Event α

def announcement (service target : String) (number total : Nat) : Log.Entry :=
  .info s!"🔄 Attempting to connect to {service} at {target}... (attempt {number}/{total})"

def dial (attempt : σ → Except Failure α × σ) : Step σ (Except Failure α) := fun s =>
  let (outcome, s) := attempt s
  ⟨outcome, [.attempt], s⟩

/-- Makes up to `left` attempts out of `total`, the first of them with the given number. -/
def connectFrom (service target : String) (total : Nat) (attempt : σ → Except Failure α × σ) :
    (left number : Nat) → Step σ (Except Problem α)
  | 0, _ => pure (.error (.noAttempts service))
  | left + 1, number => do
    .emit [.log <| announcement service target number total]
    match ← dial attempt with
    | .ok connection =>
      .emit [.log <| .info s!"✅ Successfully connected to {service}"]
      pure (.ok connection)
    | .error f =>
      if left = 0 then
        .emit [.log <| .error
          s!"❌ Failed to connect to {service} after {total} attempts: {f.full}"]
        pure (.error (.exhausted service total f))
      else
        .emit [.log <| .warn <|
          s!"⚠️  Failed to connect to {service}: {f.full}. " ++
          s!"Retrying in {waitAfter number}s (attempt {number}/{total})...",
          .wait (waitAfter number)]
        connectFrom service target total attempt left (number + 1)

/-- Connects to a service in at most so many attempts. -/
def connect (service target : String) (total : Nat) (attempt : σ → Except Failure α × σ) :
    Step σ (Except Problem α) :=
  connectFrom service target total attempt total 1

end Retry
end GraphLoad
