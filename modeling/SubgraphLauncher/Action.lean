/-!
# Actions

An action starts in a state and ends with a result or a failure. Either way it leaves a state behind
and has emitted a list of events: what happened before a failure is not undone, and no action can
reach the events of another. So the events of a sequence are the events of its parts put together,
which is what every statement about a run rests on.
-/

namespace SubgraphLauncher

/-- Two computations in a row succeed if each of them does. -/
theorem bind_eq_ok_iff {ε α β : Type} {x : Except ε α} {f : α → Except ε β} {b : β} :
    x >>= f = .ok b ↔ ∃ a, x = .ok a ∧ f a = .ok b := by
  cases x with
  | error e => exact ⟨nofun, nofun⟩
  | ok a => exact ⟨fun h => ⟨a, rfl, h⟩, fun ⟨_, rfl, h⟩ => h⟩

structure Outcome (ω σ ε α : Type) where
  result : Except ε α
  state : σ
  events : List ω

/-- An action that emits `ω`, changes `σ`, fails with `ε` and yields `α`. -/
def Action (ω σ ε α : Type) : Type := σ → Outcome ω σ ε α

namespace Action

variable {ω ω' σ σ' ε α β : Type}

protected def pure (a : α) : Action ω σ ε α := fun s => ⟨.ok a, s, []⟩

protected def bind (x : Action ω σ ε α) (f : α → Action ω σ ε β) : Action ω σ ε β := fun s =>
  match x s with
  | ⟨.error e, s', events⟩ => ⟨.error e, s', events⟩
  | ⟨.ok a, s', events⟩ =>
    let rest := f a s'
    ⟨rest.result, rest.state, events ++ rest.events⟩

instance : Monad (Action ω σ ε) where
  pure := Action.pure
  bind := Action.bind

def emit (event : ω) : Action ω σ ε Unit := fun s => ⟨.ok (), s, [event]⟩

def raise (failure : ε) : Action ω σ ε α := fun s => ⟨.error failure, s, []⟩

def current : Action ω σ ε σ := fun s => ⟨.ok s, s, []⟩

def change (f : σ → σ) : Action ω σ ε Unit := fun s => ⟨.ok (), f s, []⟩

/-- Yields the result of an action, a failure included. -/
def attempt (x : Action ω σ ε α) : Action ω σ ε (Except ε α) := fun s =>
  let outcome := x s
  ⟨.ok outcome.result, outcome.state, outcome.events⟩

def ofExcept : Except ε α → Action ω σ ε α
  | .ok a => Action.pure a
  | .error e => raise e

/-- Runs an action on a part of a larger state, with its events among others. -/
def within (get : σ' → σ) (put : σ → σ' → σ') (label : ω → ω') (x : Action ω σ ε α) :
    Action ω' σ' ε α := fun s =>
  let outcome := x (get s)
  ⟨outcome.result, put outcome.state s, outcome.events.map label⟩

@[simp] theorem pure_apply (a : α) (s : σ) :
    (pure a : Action ω σ ε α) s = ⟨.ok a, s, []⟩ := rfl

theorem bind_apply (x : Action ω σ ε α) (f : α → Action ω σ ε β) (s : σ) :
    (x >>= f) s = match (x s).result with
      | .error e => ⟨.error e, (x s).state, (x s).events⟩
      | .ok a => ⟨(f a (x s).state).result, (f a (x s).state).state,
          (x s).events ++ (f a (x s).state).events⟩ := by
  change Action.bind x f s = _
  unfold Action.bind
  rcases x s with ⟨⟨e⟩ | ⟨a⟩, s', events⟩ <;> rfl

instance : LawfulMonad (Action ω σ ε) :=
  LawfulMonad.mk' (Action ω σ ε)
    (by
      intro α x
      funext s
      change Action.bind x Action.pure s = x s
      unfold Action.bind Action.pure
      rcases x s with ⟨⟨e⟩ | ⟨a⟩, s', events⟩ <;> simp)
    (by
      intro α β a f
      funext s
      rw [bind_apply, pure_apply]
      simp)
    (by
      intro α β γ x f g
      funext s
      simp only [bind_apply]
      cases (x s).result with
      | error e => rfl
      | ok a =>
          cases hf : (f a (x s).state).result with
          | error e => simp only [hf]
          | ok b => simp only [hf, List.append_assoc])

@[simp] theorem map_apply (f : α → β) (x : Action ω σ ε α) (s : σ) :
    (f <$> x) s = match (x s).result with
      | .error e => ⟨.error e, (x s).state, (x s).events⟩
      | .ok a => ⟨.ok (f a), (x s).state, (x s).events⟩ := by
  rw [map_eq_pure_bind, bind_apply]
  cases (x s).result with
  | error e => rfl
  | ok a => simp

@[simp] theorem emit_apply (event : ω) (s : σ) :
    (emit event : Action ω σ ε Unit) s = ⟨.ok (), s, [event]⟩ := rfl

@[simp] theorem raise_apply (failure : ε) (s : σ) :
    (raise failure : Action ω σ ε α) s = ⟨.error failure, s, []⟩ := rfl

@[simp] theorem current_apply (s : σ) : (current : Action ω σ ε σ) s = ⟨.ok s, s, []⟩ := rfl

@[simp] theorem change_apply (f : σ → σ) (s : σ) :
    (change f : Action ω σ ε Unit) s = ⟨.ok (), f s, []⟩ := rfl

@[simp] theorem attempt_apply (x : Action ω σ ε α) (s : σ) :
    attempt x s = ⟨.ok (x s).result, (x s).state, (x s).events⟩ := rfl

@[simp] theorem within_apply (get : σ' → σ) (put : σ → σ' → σ') (label : ω → ω')
    (x : Action ω σ ε α) (s : σ') :
    within get put label x s =
      ⟨(x (get s)).result, put (x (get s)).state s, (x (get s)).events.map label⟩ := rfl

end Action

end SubgraphLauncher
