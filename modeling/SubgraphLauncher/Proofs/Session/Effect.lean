import SubgraphLauncher.Proofs.Session.Launch
import SubgraphLauncher.Proofs.Teardown.Reach
import SubgraphLauncher.Runner.Session

/-!
# What a step can do to tasks and children

There are many steps and many ways for each to fail, but only six things that can become of the
tasks and of the children of the host. `Step.run_effect` sorts every step on every way out into one
of them, and statements about whole sessions go through these six and never open a step again.
-/

namespace SubgraphLauncher

open SubgraphLauncher.Action RunnerAction

variable {τ σ : Type}

/-- The name under which a step launches, if it is one that does. -/
def Step.subject? : Step τ σ → Option String
  | .spawn name _ | .discover name _ _ _ => some name
  | _ => none

/-- A child after the host changed it behind the runner's back. -/
def Child.altered (exitCode : Option Int) (hidden : Option Bool) (child : Child) : Child :=
  { child with
    exitCode := exitCode.orElse fun _ => child.exitCode
    hidden := hidden.getD child.hidden }

section Effect

variable [Moment τ]

/-- Whether a step settles what was launched before it: it makes a pass that no failure ends, or it
puts a new runner in place, which has launched nothing. -/
def Step.settles (notifier : Notifier τ σ) (world : World τ σ) : Step τ σ → Bool
  | .teardown | .leave _ => (SubgraphLauncher.teardown notifier world).result.isOk
  | .discard => true
  | _ => false

theorem Step.settles_of_subject? {step : Step τ σ} {name : String}
    (hsubject : step.subject? = some name) {notifier : Notifier τ σ} {world : World τ σ} :
    step.settles notifier world = false := by
  cases step <;> first | rfl | cases hsubject

/-- What a step can do to the tasks and the children. -/
inductive Effect (notifier : Notifier τ σ) (before : World τ σ) : Step τ σ → World τ σ → Prop
  | kept {step after} (hopen : step.settles notifier before = false)
      (hbook : after.book = before.book) : Effect notifier before step after
  | launched {step after} (name : String) (hsubject : step.subject? = some name)
      (hlaunched : Launched name before after) : Effect notifier before step after
  /-- Children are signalled or looked at, and all tasks stay: a pass that a failure ended, or a
  single look. -/
  | touched {step after} (pids : List Int) (hopen : step.settles notifier before = false)
      (htasks : after.registry.tasks = before.registry.tasks)
      (hstruck : Struck pids before.processes after.processes) :
      Effect notifier before step after
  /-- A pass that no failure ended. -/
  | cleared {step after} (pids : List Int) (hdone : step.settles notifier before = true)
      (htasks : after.registry.tasks = [])
      (hstruck : Struck pids before.processes after.processes)
      (hreached : ∀ task ∈ before.registry.tasks, task.pid ∈ before.processIds →
        before.processes.signalFault? task.pid = none → task.pid ∈ pids) :
      Effect notifier before step after
  | renewed {after} (pids : List Int) (htasks : after.registry.tasks = [])
      (hstruck : Struck pids before.processes after.processes) :
      Effect notifier before .discard after
  | altered {after} (pid : Int) (exitCode : Option Int) (hidden : Option Bool)
      (hregistry : after.registry = before.registry)
      (hprocesses : after.processes = before.processes.update pid (Child.altered exitCode hidden)) :
      Effect notifier before (.alter pid exitCode hidden) after

/-! ### Passes -/

/-- The signals of a pass are seen, its way out decides about the tasks, and where nothing ended it
it has struck all that could be struck. -/
structure PassEffect (pids : List Int) (before : World τ σ)
    (pass : Outcome (Event τ) (World τ σ) (Failure τ) Unit) : Prop where
  struck : Struck pids before.processes pass.state.processes
  seen : ∀ pid, pid ∈ pids ↔ .signalled pid none ∈ pass.events
  tasks : pass.state.registry.tasks = if pass.result.isOk then [] else before.registry.tasks
  reached : pass.result.isOk = true → ∀ task ∈ before.registry.tasks,
    task.pid ∈ before.processIds → before.processes.signalFault? task.pid = none →
    task.pid ∈ pids

theorem teardown_passEffect (notifier : Notifier τ σ) (world : World τ σ) :
    ∃ pids, PassEffect pids world (teardown notifier world) := by
  have hquiet (events : List (Event τ)) (hnone : events.filter Event.isDeed = []) (pid : Int) :
      pid ∈ ([] : List Int) ↔ .signalled pid none ∈ events := by
    refine ⟨fun hmem => absurd hmem List.not_mem_nil, fun hmem => ?_⟩
    exact absurd rfl (List.filter_eq_nil_iff.mp hnone _ hmem)
  by_cases hempty : world.registry.tasks = []
  · rw [teardown_of_empty notifier hempty]
    refine ⟨[], Struck.refl _, hquiet [] rfl, hempty, fun _ task hmem => ?_⟩
    rw [hempty] at hmem
    cases hmem
  cases hdenied : world.scene.network.processesDenied with
  | true =>
      rw [teardown_of_denied notifier hempty hdenied]
      exact ⟨[], Struck.refl _, hquiet _ rfl, rfl, fun hdone => by cases hdone⟩
  | false =>
      have hseen (pid : Int) :
          pid ∈ struckPids world.fate (reached world.fate (world.notices notifier)) ↔
            .signalled pid none ∈ (teardown notifier world).events := by
        rw [mem_struckPids_reached_iff, deed_mem_teardown_iff rfl fun _ => by simp, hdenied]
        exact (and_iff_right rfl).symm
      cases hfailure : passFailure? world.fate (world.notices notifier) with
      | some failure =>
          rw [teardown_of_failure notifier hdenied hfailure] at hseen ⊢
          exact ⟨_, world.dropped_struck notifier, hseen, rfl, fun hdone => by cases hdone⟩
      | none =>
          rw [teardown_of_completion notifier hempty hdenied hfailure] at hseen ⊢
          refine ⟨_, (world.dropped_struck notifier).lookAt _, hseen, rfl, ?_⟩
          intro _ task htask hlisted hfault
          rw [reached_of_passFailure?_eq_none hfailure]
          exact World.mem_struckPids_of_completion hfailure htask hlisted hfault

/-- A step that makes a pass and then leaves tasks and children alone. -/
theorem PassEffect.effect {notifier : Notifier τ σ} {before after : World τ σ} {pids : List Int}
    {step : Step τ σ} (hpass : PassEffect pids before (teardown notifier before))
    (hsettles : step.settles notifier before = (teardown notifier before).result.isOk)
    (hafter : after.book = (teardown notifier before).state.book) :
    Effect notifier before step after := by
  simp only [World.book, Prod.mk.injEq] at hafter
  obtain ⟨hregistry, hprocesses⟩ := hafter
  have hstruck : Struck pids before.processes after.processes := hprocesses ▸ hpass.struck
  have htasks := hpass.tasks
  cases hdone : (teardown notifier before).result.isOk with
  | true =>
      rw [hdone] at hsettles htasks
      refine .cleared pids hsettles ?_ hstruck (hpass.reached hdone)
      rw [hregistry, htasks, if_pos rfl]
  | false =>
      rw [hdone] at hsettles htasks
      refine .touched pids hsettles ?_ hstruck
      rw [hregistry, htasks, if_neg Bool.false_ne_true]

/-! ### Every step -/

theorem MayLaunch.effect {α : Type} {name : String} {x : RunnerAction τ σ α}
    (hx : MayLaunch name x) {notifier : Notifier τ σ} {before : World τ σ} {step : Step τ σ}
    (hsubject : step.subject? = some name) : Effect notifier before step (x before).state := by
  rcases hx before with hbook | hlaunched
  · exact .kept (Step.settles_of_subject? hsubject) hbook
  · exact .launched name hsubject hlaunched

theorem leave_book (notifier : Notifier τ σ) (failure? : Option (Failure τ))
    (world : World τ σ) :
    (leave notifier failure? world).state.book = (teardown notifier world).state.book := by
  unfold leave
  refine view_bind (fun _ => ?_) _ _
  cases failure? with
  | none => exact keeps_pure _
  | some failure => exact keeps_raise failure

/-- The finalizer makes the pass and sees to it that no failure comes out. -/
theorem finalize_apply (notifier : Notifier τ σ) (world : World τ σ) :
    finalize notifier world =
      ⟨.ok (), (teardown notifier world).state,
        (teardown notifier world).events ++
          match (teardown notifier world).result with
          | .ok _ => []
          | .error failure => [.ignored failure]⟩ := by
  unfold finalize
  rw [bind_apply, attempt_apply]
  cases (teardown notifier world).result <;> rfl

theorem discard_apply (setup : RunnerSetup τ σ) (tidy : σ → σ) (world : World τ σ) :
    Step.discard.run setup tidy world =
      ⟨.ok .done,
        { (teardown setup.notifier world).state with
          registry := Registry.empty
          processes := (teardown setup.notifier world).state.processes.lookAtAll
          scene :=
            { (teardown setup.notifier world).state.scene with
              desk := tidy (teardown setup.notifier world).state.scene.desk } },
        (finalize setup.notifier world).events⟩ := by
  simp [Step.run, bind_apply, finalize_apply, release, processes, setProcesses, renew]

omit [Moment τ] in
theorem requireTask_keeps (name : String) :
    Keeps World.book (requireTask name : RunnerAction τ σ Task) := by
  unfold requireTask
  refine keeps_current.bind fun world => ?_
  split
  · exact keeps_pure _
  · exact keeps_raise _

/-- A look at a child, at most: there is none if no task has the name. -/
theorem poll_state (setup : RunnerSetup τ σ) (tidy : σ → σ) (name : String) (before : World τ σ) :
    ∃ after, Struck [] before.processes after ∧
      ((Step.poll name).run setup tidy before).state = { before with processes := after } := by
  cases htask : before.registry.task? name with
  | none =>
      refine ⟨before.processes, .refl _, ?_⟩
      simp [Step.run, requireTask, bind_apply, htask]
  | some task =>
      refine ⟨before.processes.look task.child, (Struck.refl _).look task.child, ?_⟩
      simp [Step.run, requireTask, bind_apply, htask, pollTask_apply]

theorem Step.run_effect (setup : RunnerSetup τ σ) (tidy : σ → σ) (step : Step τ σ)
    (before : World τ σ) :
    Effect setup.notifier before step (step.run setup tidy before).state := by
  obtain ⟨pids, hpass⟩ := teardown_passEffect setup.notifier before
  cases step with
  | spawn name line =>
      exact ((spawn_mayLaunch setup name line).before fun _ => keeps_pure _).effect rfl
  | discover name line scanner known =>
      exact ((discover_mayLaunch setup scanner name line known).before fun _ =>
        keeps_pure _).effect rfl
  | pick candidates =>
      have hpick : Keeps World.book (SubgraphLauncher.pick setup.chooser candidates) :=
        pick_keeps (fun _ => keeps_consult _) candidates
      exact .kept rfl ((hpick.bind fun _ => keeps_pure _) before)
  | teardown =>
      exact hpass.effect rfl (view_bind (fun _ => keeps_pure _) _ _)
  | leave failure =>
      refine hpass.effect rfl ?_
      exact (view_bind (fun _ => keeps_pure _) _ _).trans (leave_book setup.notifier failure before)
  | discard =>
      rw [discard_apply]
      exact .renewed pids rfl hpass.struck.lookAtAll
  | tracks name => exact .kept rfl ((keeps_current.bind fun _ => keeps_pure _) before)
  | poll name =>
      obtain ⟨after, hstruck, hstate⟩ := poll_state setup tidy name before
      rw [hstate]
      exact .touched [] rfl rfl hstruck
  | describe name =>
      exact .kept rfl (((requireTask_keeps name).bind fun _ => keeps_pure _) before)
  | inspect pid => exact .kept rfl ((keeps_current.bind fun _ => keeps_pure _) before)
  | pass duration => exact .kept rfl (((keeps_pass duration).bind fun _ => keeps_pure _) before)
  | alter pid exitCode hidden => exact .altered pid exitCode hidden rfl rfl

end Effect

end SubgraphLauncher
