import SubgraphLauncher.Runner.Basic

/-!
# What an action leaves alone

An action keeps a view of the state if it leaves the view as it was, whatever it results in. A
failure undoes nothing, so this has to hold on every way out of the action; a sequence keeps what
its parts keep.

The view that matters to the runner is its book: what it remembers, and the processes of the host.
Partners run on the scene alone and cannot touch it.
-/

namespace SubgraphLauncher

variable {τ σ : Type}

namespace Action

variable {ω ε α β γ : Type} {view : σ → γ}

/-- Whatever comes of it, the action leaves a view of the state as it was. -/
def Keeps (view : σ → γ) (x : Action ω σ ε α) : Prop := ∀ s, view (x s).state = view s

theorem keeps_pure (a : α) : Keeps view (pure a : Action ω σ ε α) := fun _ => rfl

theorem keeps_emit (event : ω) : Keeps view (emit event : Action ω σ ε Unit) := fun _ => rfl

theorem keeps_raise (failure : ε) : Keeps view (raise failure : Action ω σ ε α) := fun _ => rfl

theorem keeps_current : Keeps view (current : Action ω σ ε σ) := fun _ => rfl

theorem keeps_change {f : σ → σ} (hf : ∀ s, view (f s) = view s) :
    Keeps view (change f : Action ω σ ε Unit) := hf

theorem keeps_ofExcept (result : Except ε α) :
    Keeps view (ofExcept result : Action ω σ ε α) := by
  cases result with
  | ok a => exact keeps_pure a
  | error failure => exact keeps_raise failure

theorem Keeps.attempt {x : Action ω σ ε α} (hx : Keeps view x) : Keeps view x.attempt := hx

/-- What follows an action and keeps a view does not show in it. -/
theorem view_bind {f : α → Action ω σ ε β} (hf : ∀ a, Keeps view (f a)) (x : Action ω σ ε α)
    (s : σ) : view ((x >>= f) s).state = view (x s).state := by
  rw [bind_apply]
  cases (x s).result with
  | error failure => rfl
  | ok a => exact hf a _

theorem Keeps.bind {x : Action ω σ ε α} {f : α → Action ω σ ε β} (hx : Keeps view x)
    (hf : ∀ a, Keeps view (f a)) : Keeps view (x >>= f) := by
  intro s
  rw [view_bind hf]
  exact hx s

/-- A view of a view that an action keeps. -/
theorem Keeps.comp {δ : Type} {x : Action ω σ ε α} (hx : Keeps view x) (f : γ → δ) :
    Keeps (fun s => f (view s)) x :=
  fun s => congrArg f (hx s)

theorem Keeps.mapM {f : α → Action ω σ ε β} (hf : ∀ a, Keeps view (f a)) (xs : List α) :
    Keeps view (xs.mapM f) := by
  induction xs with
  | nil => exact keeps_pure []
  | cons first rest ih =>
      rw [List.mapM_cons]
      exact (hf first).bind fun _ => ih.bind fun _ => keeps_pure _

/-- A check that fails, or goes on. -/
theorem Keeps.unless {condition : Prop} [Decidable condition] {failure : ε}
    {next : Unit → Action ω σ ε α} (hnext : ∀ u, Keeps view (next u)) :
    Keeps view (if condition then raise failure >>= next else next ()) := by
  split
  · exact (keeps_raise failure).bind hnext
  · exact hnext ()

end Action

open SubgraphLauncher.Action

/-- The runner's own part of the world. -/
def World.book (world : World τ σ) : Registry × Processes τ := (world.registry, world.processes)

namespace RunnerAction

variable {α γ : Type} {view : World τ σ → γ}

theorem keeps_consult (action : PartnerAction τ σ α) : Keeps World.book (consult action) :=
  fun _ => rfl

/-- In a view of the scene, a runner that consults a partner shows what the partner does. -/
theorem keeps_consult_of_scene {sceneView : Scene τ σ → γ} {action : PartnerAction τ σ α}
    (haction : Keeps sceneView action) :
    Keeps (fun world => sceneView world.scene) (consult action) :=
  fun world => haction world.scene

theorem keeps_record (level : Level) (source : Source) (message : String) :
    Keeps view (record level source message : RunnerAction τ σ Unit) :=
  keeps_emit _

theorem keeps_fail (cause : TaskFailure τ) : Keeps view (fail cause : RunnerAction τ σ α) :=
  keeps_raise _

theorem keeps_now : Keeps view (now : RunnerAction τ σ τ) := by
  unfold now
  exact keeps_current.bind fun _ => keeps_pure _

theorem keeps_pass [Moment τ] (duration : τ) :
    Keeps World.book (pass duration : RunnerAction τ σ Unit) :=
  keeps_change fun _ => rfl

end RunnerAction

end SubgraphLauncher
