import GraphLoad.Action

/-!
# What actions give

`Gives` states what an action gives from a state: its value, what can be seen of its events, and the
state that it leaves. It is put together along the action (`Gives.bind`, `Gives.map`).
-/

namespace GraphLoad.Action

variable {σ ε δ α β : Type}

/-- From a state the action gives this value, with this to be seen of its events, and leaves this
state. -/
structure Gives (view : ε → Option δ) (a : Action σ ε α) (s : σ) (value : α) (seen : List δ) (s' : σ) :
    Prop where
  value : (a.run s).value = value
  seen : (a.run s).events.filterMap view = seen
  state : (a.run s).state = s'

variable {view : ε → Option δ} {a : Action σ ε α} {f : α → Action σ ε β} {s s₁ s₂ : σ} {v v' : α}
  {w : β} {seen seen' : List δ}

theorem Gives.bind (ha : a.Gives view s v seen s₁) (hf : (f v).Gives view s₁ w seen' s₂) :
    (a >>= f).Gives view s w (seen ++ seen') s₂ := by
  obtain ⟨rfl, rfl, rfl⟩ := ha
  obtain ⟨rfl, rfl, rfl⟩ := hf
  exact ⟨rfl, List.filterMap_append .., rfl⟩

theorem Gives.map (g : α → β) (ha : a.Gives view s v seen s₁) :
    (g <$> a).Gives view s (g v) seen s₁ := by
  obtain ⟨rfl, rfl, rfl⟩ := ha
  constructor <;> rw [run_map]

theorem Gives.unique (h : a.Gives view s v seen s₁) (h' : a.Gives view s v' seen' s₂) :
    v = v' ∧ seen = seen' ∧ s₁ = s₂ :=
  ⟨h.value.symm.trans h'.value, h.seen.symm.trans h'.seen, h.state.symm.trans h'.state⟩

theorem gives_pure (v : α) (s : σ) : (pure v : Action σ ε α).Gives view s v [] s :=
  ⟨rfl, rfl, rfl⟩

theorem gives_emit (events : List ε) (s : σ) :
    (emit events : Action σ ε Unit).Gives view s () (events.filterMap view) s :=
  ⟨rfl, rfl, rfl⟩

/-- Nothing is seen of events of one kind. -/
theorem gives_emit_map {γ : Type} {event : γ → ε} (h : ∀ x, view (event x) = none) (l : List γ)
    (s : σ) : (emit (l.map event) : Action σ ε Unit).Gives view s () [] s := by
  have hnone : (l.map event).filterMap view = [] := by
    rw [List.filterMap_map]
    exact List.filterMap_eq_nil_iff.mpr fun x _ => h x
  exact hnone ▸ gives_emit _ s

end GraphLoad.Action
