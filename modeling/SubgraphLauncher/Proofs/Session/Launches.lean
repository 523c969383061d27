import Mathlib.Data.List.Nodup
import SubgraphLauncher.Proofs.Session.Effect

/-!
# No child is lost

A session is a world together with what has happened to its runner: how many children the host had
before it, and what was launched since the last pass that no failure ended. Both are read off the
children of the host and know nothing of the registry. `tracked_eq_launched` says that the registry
is the same list, in every session, whatever its steps are and however each of them ended.

The invariant has one part more than the result: a task stands for the child at its place, which a
statement about what becomes of the children needs.
-/

namespace SubgraphLauncher

variable {τ σ : Type}

/-- The identifier of the child at a place. -/
def Processes.pidAt? (processes : Processes τ) (place : Nat) : Option Int :=
  (processes.children[place]?).map (·.pid)

/-- What the host has launched between two moments of a step, each with the name that the step
launches under. -/
def Step.launches (step : Step τ σ) (before after : World τ σ) : List (Option String × Int) :=
  (after.processes.children.drop before.processes.children.length).map fun child =>
    (step.subject?, child.pid)

/-- Whether a step puts a new runner in place. -/
def Step.renews : Step τ σ → Bool
  | .discard => true
  | _ => false

/-- A world with what has happened to its runner. -/
structure Session (τ σ : Type) where
  world : World τ σ
  /-- How many children there were before the runner. -/
  origin : Nat
  /-- What was launched since the last completed pass, by name and identifier. -/
  launches : List (Option String × Int)

namespace Session

/-- A runner that has done nothing, on a host of any kind. -/
def fresh (world : World τ σ) : Session τ σ :=
  ⟨{ world with registry := Registry.empty }, world.processes.children.length, []⟩

variable [Moment τ] (setup : RunnerSetup τ σ) (tidy : σ → σ)

/-- A session after one more step, whatever the step results in. -/
def next (session : Session τ σ) (step : Step τ σ) : Session τ σ :=
  let after := (step.run setup tidy session.world).state
  { world := after
    origin := if step.renews then after.processes.children.length else session.origin
    launches :=
      if step.settles setup.notifier session.world then []
      else session.launches ++ step.launches session.world after }

/-- The session of a new runner after some steps. -/
def run (start : World τ σ) (steps : List (Step τ σ)) : Session τ σ :=
  steps.foldl (next setup tidy) (fresh start)

/-- The tasks of a runner account for its launches. -/
structure Sound (session : Session τ σ) : Prop where
  names : (session.world.registry.tasks.map (·.name)).Nodup
  launches : session.world.registry.tasks.map (fun task => (some task.name, task.pid)) =
    session.launches
  placed : ∀ task ∈ session.world.registry.tasks,
    session.world.processes.pidAt? task.child = some task.pid

end Session

/-! ### The children stay in their places -/

theorem Processes.pid_eq_of_pidAt? {processes : Processes τ} {place : Nat} {pid : Int}
    (hplace : processes.pidAt? place = some pid) {child : Child}
    (hchild : processes.children[place]? = some child) : child.pid = pid := by
  rw [pidAt?, hchild] at hplace
  exact Option.some.inj hplace

theorem Struck.pidAt? {pids : List Int} {before after : Processes τ}
    (hstruck : Struck pids before after) (place : Nat) :
    after.pidAt? place = before.pidAt? place := by
  rw [Processes.pidAt?, Processes.pidAt?, ← List.getElem?_map, ← List.getElem?_map, hstruck.map_pid]

theorem Processes.update_altered_pidAt? (processes : Processes τ) (pid : Int)
    (exitCode : Option Int) (hidden : Option Bool) (place : Nat) :
    (processes.update pid (Child.altered exitCode hidden)).pidAt? place =
      processes.pidAt? place := by
  rw [pidAt?, pidAt?, update, List.getElem?_map, Option.map_map]
  refine congrArg (Option.map · _) (funext fun child => ?_)
  rw [Function.comp_apply]
  split <;> rfl

theorem Processes.launch_pidAt?_of_some {processes : Processes τ} {place : Nat} {pid : Int}
    (hplace : processes.pidAt? place = some pid) :
    processes.launch.2.pidAt? place = some pid := by
  rw [pidAt?, Option.map_eq_some_iff] at hplace
  obtain ⟨child, hchild, hpid⟩ := hplace
  have hlt : place < processes.children.length := (List.getElem?_eq_some_iff.mp hchild).1
  rw [pidAt?, launch_children, List.getElem?_append_left hlt, hchild]
  exact congrArg some hpid

theorem Processes.launch_pidAt?_length (processes : Processes τ) :
    processes.launch.2.pidAt? processes.children.length = some processes.launch.1 := by
  rw [pidAt?, launch_children, List.getElem?_concat_length]
  rfl

/-! ### One step -/

theorem Step.launches_eq_nil {step : Step τ σ} {before after : World τ σ}
    (hlength : after.processes.children.length = before.processes.children.length) :
    step.launches before after = [] := by
  rw [launches, List.drop_eq_nil_of_le (Nat.le_of_eq hlength), List.map_nil]

theorem Launched.launches {name : String} {before after : World τ σ}
    (hlaunched : Launched name before after) {step : Step τ σ}
    (hsubject : step.subject? = some name) :
    step.launches before after = [(some name, before.processes.launch.1)] := by
  rw [Step.launches, hlaunched.processes, Processes.launch_children, List.drop_left, hsubject]
  rfl

/-- Where neither a child nor a task comes or goes, the account stays in balance. -/
theorem Session.Sound.of_same {session : Session τ σ} (hsound : session.Sound)
    {after : World τ σ} (step : Step τ σ) (origin : Nat)
    (htasks : after.registry.tasks = session.world.registry.tasks)
    (hpids : ∀ place, after.processes.pidAt? place = session.world.processes.pidAt? place)
    (hlength : after.processes.children.length = session.world.processes.children.length) :
    Session.Sound ⟨after, origin, session.launches ++ step.launches session.world after⟩ := by
  constructor
  · rw [htasks]
    exact hsound.names
  · rw [htasks, Step.launches_eq_nil hlength, List.append_nil]
    exact hsound.launches
  · intro task htask
    rw [htasks] at htask
    rw [hpids]
    exact hsound.placed task htask

theorem Session.Sound.of_launched {session : Session τ σ} (hsound : session.Sound)
    {after : World τ σ} {step : Step τ σ} {name : String} (origin : Nat)
    (hsubject : step.subject? = some name) (hlaunched : Launched name session.world after) :
    Session.Sound ⟨after, origin, session.launches ++ step.launches session.world after⟩ := by
  have hfree : name ∉ session.world.registry.names := fun htaken =>
    Bool.eq_false_iff.mp hlaunched.free (Registry.tracks_iff.mpr htaken)
  constructor
  · rw [hlaunched.tasks, List.map_append, List.nodup_append]
    refine ⟨hsound.names, List.nodup_singleton _, ?_⟩
    rintro other hother _ hnew rfl
    rw [List.map_singleton, List.mem_singleton] at hnew
    rw [hnew] at hother
    exact hfree hother
  · rw [hlaunched.tasks, List.map_append, hsound.launches, hlaunched.launches hsubject]
    rfl
  · intro task htask
    rw [hlaunched.tasks, List.mem_append, List.mem_singleton] at htask
    rw [hlaunched.processes]
    rcases htask with htask | rfl
    · exact Processes.launch_pidAt?_of_some (hsound.placed task htask)
    · exact Processes.launch_pidAt?_length _

theorem Session.Sound.of_empty {after : World τ σ} (origin : Nat)
    (hempty : after.registry.tasks = []) : Session.Sound ⟨after, origin, []⟩ := by
  constructor
  · rw [hempty]
    exact List.nodup_nil
  · rw [hempty]
    rfl
  · intro task htask
    rw [hempty] at htask
    cases htask

section Run

variable [Moment τ] (setup : RunnerSetup τ σ) (tidy : σ → σ)

theorem Session.Sound.next {session : Session τ σ} (hsound : session.Sound) (step : Step τ σ) :
    (session.next setup tidy step).Sound := by
  have heffect := step.run_effect setup tidy session.world
  unfold Session.next
  generalize (step.run setup tidy session.world).state = after at heffect
  dsimp only
  cases heffect with
  | kept hopen hbook =>
      simp only [World.book, Prod.mk.injEq] at hbook
      rw [hopen, if_neg Bool.false_ne_true]
      refine hsound.of_same step _ ?_ ?_ ?_
      · rw [hbook.1]
      · intro place
        rw [hbook.2]
      · rw [hbook.2]
  | launched name hsubject hlaunched =>
      rw [Step.settles_of_subject? hsubject, if_neg Bool.false_ne_true]
      exact hsound.of_launched _ hsubject hlaunched
  | touched pids hopen htasks hstruck =>
      rw [hopen, if_neg Bool.false_ne_true]
      exact hsound.of_same step _ htasks hstruck.pidAt? hstruck.length
  | cleared pids hdone htasks hstruck hreached =>
      rw [hdone, if_pos rfl]
      exact Session.Sound.of_empty _ htasks
  | renewed pids htasks hstruck => exact Session.Sound.of_empty _ htasks
  | altered pid exitCode hidden hregistry hprocesses =>
      refine hsound.of_same _ _ ?_ ?_ ?_
      · rw [hregistry]
      · intro place
        rw [hprocesses]
        exact Processes.update_altered_pidAt? _ _ _ _ _
      · rw [hprocesses]
        exact List.length_map _

theorem Session.run_sound (start : World τ σ) (steps : List (Step τ σ)) :
    (Session.run setup tidy start steps).Sound := by
  refine List.foldlRecOn steps _ (Session.Sound.of_empty _ rfl) ?_
  intro session hsound step _
  exact hsound.next setup tidy step

/-- In every session the names of the tasks are pairwise distinct, and the tasks are what the host
has launched since the last completed pass, in the same order. -/
theorem tracked_eq_launched (start : World τ σ) (steps : List (Step τ σ)) :
    ((Session.run setup tidy start steps).world.registry.tasks.map (·.name)).Nodup ∧
      (Session.run setup tidy start steps).world.registry.tasks.map
          (fun task => (some task.name, task.pid)) =
        (Session.run setup tidy start steps).launches := by
  have hsound := Session.run_sound setup tidy start steps
  exact ⟨hsound.names, hsound.launches⟩

end Run

end SubgraphLauncher
