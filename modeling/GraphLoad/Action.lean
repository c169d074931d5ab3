/-!
Actions: steps that change a state and leave a trace of events. An action is run on the state before
it and gives a value, the events in the order in which they happened, and the state after it.
-/

namespace GraphLoad

structure Outcome (σ ε α : Type) where
  value : α
  events : List ε
  state : σ

/-- A step on a state `σ` with events `ε`. -/
def Action (σ ε α : Type) := σ → Outcome σ ε α

namespace Action

variable {σ ε α β : Type}

def run (a : Action σ ε α) (s : σ) : Outcome σ ε α :=
  a s

instance : Monad (Action σ ε) where
  pure v s := ⟨v, [], s⟩
  bind a f s :=
    let first := a s
    let second := f first.value first.state
    ⟨second.value, first.events ++ second.events, second.state⟩

def emit (events : List ε) : Action σ ε Unit :=
  fun s => ⟨(), events, s⟩

/-- The action with its events told otherwise. -/
def mapEvents {δ : Type} (f : List ε → List δ) (a : Action σ ε α) : Action σ δ α := fun s =>
  let o := a s
  ⟨o.value, f o.events, o.state⟩

/-- The action, with its events handed on beside its value. -/
def traced (a : Action σ ε α) : Action σ ε (α × List ε) := fun s =>
  let o := a s
  ⟨(o.value, o.events), o.events, o.state⟩

def times (a : Action σ ε α) : Nat → Action σ ε (List α)
  | 0 => pure []
  | n + 1 => do
    let first ← a
    let rest ← times a n
    pure (first :: rest)

/-- The action on a part of a larger state. -/
def within {τ : Type} (get : τ → σ) (set : σ → τ → τ) (a : Action σ ε α) : Action τ ε α := fun t =>
  let o := a (get t)
  ⟨o.value, o.events, set o.state t⟩

@[simp]
theorem run_pure (v : α) (s : σ) : (pure v : Action σ ε α).run s = ⟨v, [], s⟩ := rfl

@[simp]
theorem run_bind (a : Action σ ε α) (f : α → Action σ ε β) (s : σ) :
    (a >>= f).run s =
      let first := a.run s
      let second := (f first.value).run first.state
      ⟨second.value, first.events ++ second.events, second.state⟩ := rfl

@[simp]
theorem run_emit (events : List ε) (s : σ) :
    (emit events : Action σ ε Unit).run s = ⟨(), events, s⟩ := rfl

@[simp]
theorem run_mapEvents {δ : Type} (f : List ε → List δ) (a : Action σ ε α) (s : σ) :
    (a.mapEvents f).run s = ⟨(a.run s).value, f (a.run s).events, (a.run s).state⟩ := rfl

@[simp]
theorem run_traced (a : Action σ ε α) (s : σ) :
    a.traced.run s = ⟨((a.run s).value, (a.run s).events), (a.run s).events, (a.run s).state⟩ := rfl

@[simp]
theorem run_within {τ : Type} (get : τ → σ) (set : σ → τ → τ) (a : Action σ ε α) (t : τ) :
    (a.within get set).run t =
      ⟨(a.run (get t)).value, (a.run (get t)).events, set (a.run (get t)).state t⟩ := rfl

private theorem id_map (a : Action σ ε α) : id <$> a = a := by
  funext s
  show (⟨(a s).value, (a s).events ++ [], (a s).state⟩ : Outcome σ ε _) = a s
  rw [List.append_nil]

private theorem pure_bind (v : α) (f : α → Action σ ε β) : pure v >>= f = f v := rfl

private theorem bind_assoc {γ : Type} (a : Action σ ε α) (f : α → Action σ ε β)
    (g : β → Action σ ε γ) : a >>= f >>= g = a >>= fun v => f v >>= g := by
  funext s
  simp only [bind, List.append_assoc]

instance : LawfulMonad (Action σ ε) :=
  LawfulMonad.mk' (Action σ ε) id_map pure_bind bind_assoc

@[simp]
theorem run_map (f : α → β) (a : Action σ ε α) (s : σ) :
    (f <$> a).run s = ⟨f (a.run s).value, (a.run s).events, (a.run s).state⟩ := by
  rw [map_eq_pure_bind, run_bind]
  simp only [run_pure, List.append_nil]

end Action
end GraphLoad
