import SubgraphLauncher.Proofs.Frame

/-!
# Two actions side by side

Two actions match if, begun in states that are alike, they come to the same result, leave states
behind that are alike again, and show the same as far as one looks. What is not looked at they may
do each in its own way. Sequences match if their parts do.
-/

namespace SubgraphLauncher

namespace Action

variable {ω σ ε α β : Type} {alike : σ → σ → Prop} {shown : ω → Bool}

/-- Two outcomes with one result, with states that are alike, and with the same events among those
that are shown. -/
structure Paired (alike : σ → σ → Prop) (shown : ω → Bool) (first second : Outcome ω σ ε α) :
    Prop where
  result : first.result = second.result
  state : alike first.state second.state
  events : first.events.filter shown = second.events.filter shown

/-- In states that are alike, the actions have paired outcomes. -/
def Matches (alike : σ → σ → Prop) (shown : ω → Bool) (x y : Action ω σ ε α) : Prop :=
  ∀ s t, alike s t → Paired alike shown (x s) (y t)

theorem matches_pure (a : α) :
    Matches alike shown (pure a : Action ω σ ε α) (pure a) :=
  fun _ _ hstates => ⟨rfl, hstates, rfl⟩

theorem matches_raise (failure : ε) :
    Matches alike shown (raise failure : Action ω σ ε α) (raise failure) :=
  fun _ _ hstates => ⟨rfl, hstates, rfl⟩

theorem matches_emit (event : ω) :
    Matches alike shown (emit event : Action ω σ ε Unit) (emit event) :=
  fun _ _ hstates => ⟨rfl, hstates, rfl⟩

theorem matches_change {f : σ → σ} (hf : ∀ s t, alike s t → alike (f s) (f t)) :
    Matches alike shown (change f : Action ω σ ε Unit) (change f) :=
  fun s t hstates => ⟨rfl, hf s t hstates, rfl⟩

theorem Matches.attempt {x y : Action ω σ ε α} (hx : Matches alike shown x y) :
    Matches alike shown x.attempt y.attempt := by
  intro s t hstates
  obtain ⟨hresult, hstate, hevents⟩ := hx s t hstates
  exact ⟨congrArg Except.ok hresult, hstate, hevents⟩

theorem Matches.bind {x y : Action ω σ ε α} {f g : α → Action ω σ ε β}
    (hx : Matches alike shown x y) (hf : ∀ a, Matches alike shown (f a) (g a)) :
    Matches alike shown (x >>= f) (y >>= g) := by
  intro s t hstates
  obtain ⟨hresult, hstate, hevents⟩ := hx s t hstates
  rw [bind_apply, bind_apply, ← hresult]
  cases (x s).result with
  | error failure => exact ⟨rfl, hstate, hevents⟩
  | ok a =>
      obtain ⟨hresult', hstate', hevents'⟩ := hf a _ _ hstate
      refine ⟨hresult', hstate', ?_⟩
      dsimp only
      rw [List.filter_append, List.filter_append, hevents, hevents']

/-- An action matches itself where only the same states are alike. -/
theorem matches_refl (x : Action ω σ ε α) : Matches Eq shown x x := by
  intro s t hstates
  rw [hstates]
  exact ⟨rfl, rfl, rfl⟩

end Action

end SubgraphLauncher
