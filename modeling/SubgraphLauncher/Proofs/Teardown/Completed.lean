import Mathlib.Data.List.Basic
import SubgraphLauncher.Proofs.Teardown.Children
import SubgraphLauncher.Proofs.Teardown.Deeds
import SubgraphLauncher.Partner.Script
import SubgraphLauncher.Runner.Session

/-!
# The effect of a completed pass

There are three ways into a teardown, and all of them make the same pass. Where that pass is not
ended by a failure, what it does is a function of the world it began in: `CompletedPass` lists it,
and `ending_completed` says that each of the three ways has exactly that effect. Afterwards the
registry is empty, so whatever teardowns follow have nothing left to do.
-/

namespace SubgraphLauncher

variable {τ σ : Type}

/-- The ways into a teardown: on demand, on leaving the block of a runner, where a failure inside
may be the reason, and once the runner is no longer referred to. -/
inductive Ending (τ : Type)
  | asked
  | left (failure? : Option (Failure τ))
  | dropped

namespace Ending

def run [Moment τ] (notifier : Notifier τ σ) : Ending τ → RunnerAction τ σ Unit
  | asked => teardown notifier
  | left failure? => leave notifier failure?
  | dropped => finalize notifier

/-- The failure that goes on after the pass, which is not one of the pass. -/
def failure? : Ending τ → Option (Failure τ)
  | left failure? => failure?
  | asked | dropped => none

/-- Teardowns one after another, whatever each of them results in. -/
def runAll [Moment τ] (notifier : Notifier τ σ) : List (Ending τ) → RunnerAction τ σ Unit
  | [] => pure ()
  | ending :: rest => do
    let _ ← (ending.run notifier).attempt
    runAll notifier rest

variable [Moment τ] (notifier : Notifier τ σ) {world : World τ σ}

theorem run_of_completed (ending : Ending τ) (hdone : (teardown notifier world).result = .ok ()) :
    ending.run notifier world =
      ⟨endedBy ending.failure?, (teardown notifier world).state,
        (teardown notifier world).events⟩ := by
  cases ending with
  | asked =>
      rw [run, failure?, endedBy, ← hdone]
  | left failure? =>
      cases failure? <;> simp [run, leave, Action.bind_apply, hdone, Ending.failure?, endedBy]
  | dropped =>
      simp [run, finalize, Action.bind_apply, hdone, failure?, endedBy]

theorem runAll_of_empty (endings : List (Ending τ)) (hempty : world.registry.tasks = []) :
    runAll notifier endings world = ⟨.ok (), world, []⟩ := by
  have hidle := teardown_of_empty notifier hempty
  induction endings with
  | nil => rfl
  | cons ending rest ih =>
      have hdone : (teardown notifier world).result = .ok () := by rw [hidle]
      rw [runAll, Action.bind_apply, Action.attempt_apply,
        run_of_completed notifier ending hdone, hidle]
      simp [ih]

end Ending

section Completed

variable [Moment τ]

/-- The signal for a process of the table: none where the table does not have it. -/
def World.signals (world : World τ σ) (pid : Int) : List (Event τ) :=
  if pid ∈ world.processIds then [.signalled pid (world.processes.signalFault? pid)] else []

/-- What a pass does to others about tasks that it deals with in full. -/
def World.dropDeeds (world : World τ σ) (tasks : List Task) : List (Event τ) :=
  tasks.flatMap fun task => .announced task.name :: world.signals task.pid

/-- The warning about a signal, which needs that there is one and that the host refuses it. -/
def World.signalWarnings (world : World τ σ) (pid : Int) : List (Event τ) :=
  if pid ∈ world.processIds ∧ (world.processes.signalFault? pid).isSome then [strikeWarning pid]
  else []

/-- The warning about a notice that failed in whatever way. -/
def Notice.failureWarnings (notice : Notice τ σ) : List (Event τ) :=
  match notice.outcome.result with
  | .ok _ => []
  | .error failure => [noticeWarning notice.task.name failure]

/-- The effect of a pass that nothing ended, on a world that tracks tasks. -/
structure CompletedPass (notifier : Notifier τ σ) (before : World τ σ)
    (pass : Outcome (Event τ) (World τ σ) (Failure τ) Unit) : Prop where
  /-- The process table is read once, before all but the opening note. -/
  refreshed : ∃ later,
    pass.events = openingNote before.registry.tasks.length ::
      refreshNote before.processIds.length :: later ∧
    ∀ count, refreshNote count ∉ later
  /-- Task after task is announced and then signalled where the table has its process. Only after
  all of them is every child looked at, in the same order. -/
  deeds : pass.events.filter Event.isDeed =
    before.dropDeeds before.registry.tasks ++ before.registry.tasks.map (.polled ·.pid)
  /-- Each notice is sent once, in the scene that the one before it left. -/
  notified : pass.events.filterMap Event.partner? =
    (before.notices notifier).flatMap (·.outcome.events)
  /-- There is one warning for each failed notice, one for each failed signal, and no other. -/
  warnings : pass.events.filter Event.isWarning =
    (before.notices notifier).flatMap fun notice =>
      notice.failureWarnings ++ before.signalWarnings notice.task.pid
  /-- No child is forgotten. -/
  pids : pass.state.processes.children.map (·.pid) = before.processes.children.map (·.pid)
  /-- A child whose signal was sent and did not fail has ended. -/
  ended : ∀ task ∈ before.registry.tasks, task.pid ∈ before.processIds →
    before.processes.signalFault? task.pid = none →
    ∀ child ∈ pass.state.processes.children, child.pid = task.pid → child.exitCode ≠ none
  /-- No child of a task lingers. -/
  reaped : ∀ task ∈ before.registry.tasks, pass.state.processes.ReapedAt task.child
  registry : pass.state.registry = ⟨[], before.processIds⟩
  /-- Further teardowns emit nothing and change nothing. -/
  idle : ∀ endings, Ending.runAll notifier endings pass.state = ⟨.ok (), pass.state, []⟩

variable {world : World τ σ}

theorem World.fate_deeds (pid : Int) :
    ((world.fate pid).deeds pid : List (Event τ)) = world.signals pid := by
  unfold signals
  cases hfate : world.fate pid with
  | absent => rw [if_neg ((fate_eq_absent_iff world pid).mp hfate), Strike.deeds]
  | delivered =>
      obtain ⟨hlisted, hfault⟩ := (fate_eq_delivered_iff world pid).mp hfate
      rw [if_pos hlisted, hfault, Strike.deeds]
  | refused fault =>
      obtain ⟨hlisted, hfault⟩ := (fate_eq_refused_iff world pid fault).mp hfate
      rw [if_pos hlisted, hfault, Strike.deeds]

theorem World.fate_warnings {pid : Int} (hpass : world.fate pid ≠ .refused .notPermitted) :
    ((world.fate pid).warnings pid : List (Event τ)) = world.signalWarnings pid := by
  unfold signalWarnings
  cases hfate : world.fate pid with
  | absent =>
      have hlisted := (fate_eq_absent_iff world pid).mp hfate
      rw [if_neg fun h => hlisted h.1]
      rfl
  | delivered =>
      obtain ⟨_, hfault⟩ := (fate_eq_delivered_iff world pid).mp hfate
      rw [hfault, if_neg fun h => Bool.false_ne_true h.2]
      rfl
  | refused fault =>
      obtain ⟨hlisted, hfault⟩ := (fate_eq_refused_iff world pid fault).mp hfate
      rw [if_pos ⟨hlisted, by rw [hfault]; rfl⟩]
      cases fault with
      | notPermitted => exact absurd hfate hpass
      | denied | gone | zombie | unknown => rfl

theorem Notice.warnings_of_failure?_eq_none {notice : Notice τ σ} (hnone : notice.failure? = none) :
    notice.warnings = notice.failureWarnings := by
  rw [failure?_eq_none_iff] at hnone
  unfold warnings failureWarnings
  cases hresult : notice.outcome.result with
  | ok _ => rfl
  | error failure => exact if_pos (hnone failure hresult)

/-- Tasks whose notices end no pass are dealt with in full. -/
theorem World.passEvents_deeds {notices : List (Notice τ σ)}
    (hnone : ∀ notice ∈ notices, notice.failure? = none) :
    (notices.flatMap (·.passEvents world.fate)).filter Event.isDeed =
      world.dropDeeds (notices.map (·.task)) := by
  rw [List.filter_flatMap, dropDeeds, List.flatMap_map]
  refine List.flatMap_congr fun notice hmem => ?_
  rw [Notice.passEvents_filter_isDeed, Notice.deeds, hnone notice hmem, fate_deeds]
  rfl

variable {notifier : Notifier τ σ}

/-- Where nothing ends the pass, it gets to every task. -/
theorem World.dropEvents_of_completion
    (hnone : passFailure? world.fate (world.notices notifier) = none) :
    world.dropEvents notifier =
      (world.notices notifier).flatMap (·.passEvents world.fate) := by
  rw [dropEvents, reached_of_passFailure?_eq_none hnone]

theorem World.dropEvents_deeds
    (hnone : passFailure? world.fate (world.notices notifier) = none) :
    (world.dropEvents notifier).filter Event.isDeed = world.dropDeeds world.registry.tasks := by
  have hnotices := (passFailure?_eq_none_iff _ _).mp hnone
  rw [dropEvents_of_completion hnone, passEvents_deeds, notices, noticesOf_map_task]
  intro notice hmem
  exact ((Notice.passFailure?_eq_none_iff _ _).mp (hnotices notice hmem)).1

theorem World.dropEvents_warnings
    (hnone : passFailure? world.fate (world.notices notifier) = none) :
    (world.dropEvents notifier).filter Event.isWarning =
      (world.notices notifier).flatMap fun notice =>
        notice.failureWarnings ++ world.signalWarnings notice.task.pid := by
  have hnotices := (passFailure?_eq_none_iff _ _).mp hnone
  rw [dropEvents_of_completion hnone, List.filter_flatMap]
  refine List.flatMap_congr fun notice hmem => ?_
  obtain ⟨hpass, hstrike⟩ := (Notice.passFailure?_eq_none_iff _ _).mp (hnotices notice hmem)
  rw [Notice.passEvents_filter_isWarning, hpass, ← fate_warnings hstrike,
    Notice.warnings_of_failure?_eq_none hpass]
  rfl

theorem World.dropEvents_partner
    (hnone : passFailure? world.fate (world.notices notifier) = none) :
    (world.dropEvents notifier).filterMap Event.partner? =
      (world.notices notifier).flatMap (·.outcome.events) := by
  rw [dropEvents_of_completion hnone, List.filterMap_flatMap]
  exact List.flatMap_congr fun notice _ => notice.passEvents_filterMap_partner? world.fate

theorem World.ended_of_delivered
    (hnone : passFailure? world.fate (world.notices notifier) = none) {task : Task}
    (htask : task ∈ world.registry.tasks) (hlisted : task.pid ∈ world.processIds)
    (hfault : world.processes.signalFault? task.pid = none) {child : Child}
    {after : Processes τ}
    (hstruck : Struck (struckPids world.fate (world.notices notifier)) world.processes after)
    (hchild : child ∈ after.children) (hpid : child.pid = task.pid) : child.exitCode ≠ none := by
  obtain ⟨place, hplace⟩ := List.mem_iff_getElem?.mp hchild
  obtain ⟨old, _, hfollows⟩ := hstruck.exists_before hplace
  rw [hfollows.exitCode]
  intro hrunning
  refine ((Child.struck_exitCode_eq_none_iff _ _).mp hrunning).2 ?_
  rw [← hfollows.pid, hpid]
  exact mem_struckPids_of_completion hnone htask hlisted hfault

theorem teardown_completedPass (hsome : world.registry.tasks ≠ [])
    (hdone : (teardown notifier world).result = .ok ()) :
    CompletedPass notifier world (teardown notifier world) := by
  obtain ⟨hreadable, hnone⟩ : world.scene.network.processesDenied = false ∧
      passFailure? world.fate (world.notices notifier) = none :=
    ((teardown_result_eq_ok_iff notifier).mp hdone).resolve_left hsome
  have hstruck : Struck (struckPids world.fate (world.notices notifier)) world.processes
      ((world.dropped notifier).processes.lookAt world.registry.tasks) := by
    have hdropped := world.dropped_struck notifier
    rw [reached_of_passFailure?_eq_none hnone] at hdropped
    exact hdropped.lookAt world.registry.tasks
  rw [teardown_of_completion notifier hsome hreadable hnone]
  constructor
  case refreshed =>
    refine ⟨_, rfl, fun count hmem => ?_⟩
    rw [World.dropEvents, List.mem_append, List.mem_append, List.mem_flatMap, List.mem_map,
      List.mem_singleton] at hmem
    rcases hmem with (⟨notice, _, hnotice⟩ | ⟨task, _, hpolled⟩) | hclosing
    · exact refreshNote_not_mem_passEvents count _ notice hnotice
    · cases hpolled
    · cases hclosing
  case deeds =>
    simp only [List.filter_cons, List.filter_append, World.dropEvents_deeds hnone,
      filter_isDeed_polled]
    exact List.append_nil _
  case notified =>
    simp only [List.filterMap_cons, List.filterMap_append, World.dropEvents_partner hnone,
      filterMap_partner?_polled, List.append_nil]
    exact List.append_nil _
  case warnings =>
    simp only [List.filter_cons, List.filter_append, World.dropEvents_warnings hnone,
      filter_isWarning_polled, List.append_nil]
    exact List.append_nil _
  case pids => exact hstruck.map_pid
  case ended =>
    intro task htask hlisted hfault child hchild hpid
    exact World.ended_of_delivered hnone htask hlisted hfault hstruck hchild hpid
  case reaped => exact fun task htask => Processes.lookAt_reapedAt _ htask
  case registry => rfl
  case idle => exact fun endings => Ending.runAll_of_empty notifier endings rfl

/-- Each way into a teardown has the exact effect of a completed pass, whatever the registry, the
processes, the notifier and the faults of the signals, unless the pass itself fails. -/
theorem ending_completed (notifier : Notifier τ σ) (ending : Ending τ) (world : World τ σ)
    (hsome : world.registry.tasks ≠ []) (hdone : (teardown notifier world).result = .ok ()) :
    (ending.run notifier world).result = endedBy ending.failure? ∧
      CompletedPass notifier world (ending.run notifier world) := by
  have hpass := teardown_completedPass hsome hdone
  rw [Ending.run_of_completed notifier ending hdone]
  exact ⟨rfl, hpass.refreshed, hpass.deeds, hpass.notified, hpass.warnings, hpass.pids,
    hpass.ended, hpass.reaped, hpass.registry, hpass.idle⟩

end Completed

/-- A host on which one of three children has ended and another may not be signalled. -/
def mixedWorld : World Rat Unit where
  scene := ⟨⟨0, [], false, [], false, []⟩, ()⟩
  processes := ⟨[⟨5, none, false, false⟩, ⟨6, none, false, false⟩, ⟨7, some 0, false, false⟩],
    [], 8, [], [(6, .denied)], "linux", true⟩
  patience := ⟨none, 0⟩
  paused := 0
  registry := ⟨[⟨"a", 5, 0⟩, ⟨"b", 6, 1⟩, ⟨"c", 7, 2⟩], []⟩

/-- A notifier that cannot announce the second task. -/
def mixedNotifier : Notifier Rat Unit :=
  Notifier.scripted [("b", .notice (some "no answer"))]

theorem ending_completed_mixedWorld :
    mixedWorld.registry.tasks ≠ [] ∧ (teardown mixedNotifier mixedWorld).result = .ok () ∧
      CompletedPass mixedNotifier mixedWorld
        ((Ending.left (some .interrupt)).run mixedNotifier mixedWorld) := by
  have hsome : mixedWorld.registry.tasks ≠ [] := by decide
  have hdone : (teardown mixedNotifier mixedWorld).result = .ok () := by rfl
  exact ⟨hsome, hdone,
    (ending_completed mixedNotifier (.left (some .interrupt)) mixedWorld hsome hdone).2⟩

end SubgraphLauncher
