import SubgraphLauncher.Runner.Teardown

/-!
# One task of a teardown

A pass does two things about a task: it announces its removal and it signals its process. Both are
read here as data. A `Notice` is a notice with what became of it, and a `Strike` is what becomes of
the signal, which the snapshot and the signal faults of the host decide before the pass begins. What
`dropTask` does is then one equation, and the rest of the proof reaches it only through that.

The equation is possible because the two do not meet: a notifier runs on the scene alone and cannot
touch a process, and a signal leaves the scene as it is.
-/

namespace SubgraphLauncher

open RunnerAction

variable {τ σ : Type}

/-- What becomes of the signal for a process. -/
inductive Strike
  | absent
  | delivered
  | refused (fault : ProcessFault)
  deriving DecidableEq

/-- A process that the snapshot lacks gets no signal. -/
def World.strike (world : World τ σ) (pid : Int) : Strike :=
  if world.registry.snapshot.contains pid then
    match world.processes.signalFault? pid with
    | none => .delivered
    | some fault => .refused fault
  else .absent

/-- The notice about a task, with what became of it. -/
structure Notice (τ σ : Type) where
  task : Task
  outcome : Outcome (PartnerEvent τ) (Scene τ σ) (Failure τ) Unit

def noticeOf (notifier : Notifier τ σ) (scene : Scene τ σ) (task : Task) : Notice τ σ :=
  ⟨task, notifier.announce task.name scene⟩

/-- The result of an action that has nothing to say unless it fails. -/
def endedBy (failure? : Option (Failure τ)) : Except (Failure τ) Unit :=
  match failure? with
  | none => .ok ()
  | some failure => .error failure

/-! ### What a pass says -/

def noticeWarning [Moment τ] (name : String) (failure : Failure τ) : Event τ :=
  .record ⟨.warning, .runner,
    "Could not announce removal of subgraph '" ++ name ++ "': " ++ failure.message⟩

def strikeWarning (pid : Int) : Event τ :=
  .record ⟨.warning, .runner, "Could not drop process with PID " ++ toString pid⟩

/-- The note about a task whose process the snapshot lacks. -/
def absentNote (task : Task) : Event τ :=
  .record ⟨.debug, .runner,
    "Process for subgraph '" ++ task.name ++ "' (PID " ++ toString task.pid ++ ") already exited."⟩

def refusalNote [Moment τ] (fault : ProcessFault) (pid : Int) : Event τ :=
  .record ⟨.debug, .processes,
    match fault with
    | .gone | .zombie => "Process " ++ toString pid ++ " no longer exists, nothing to kill."
    | fault => "Kill request for PID " ++ toString pid ++ " failed: " ++
        (Failure.process fault pid : Failure τ).message⟩

/-! ### Notices -/

namespace Notice

/-- The failure by which a notice ends the pass: one that no handler for ordinary failures takes. -/
def failure? (notice : Notice τ σ) : Option (Failure τ) :=
  match notice.outcome.result with
  | .ok _ => none
  | .error failure => if failure.isOrdinary then none else some failure

def warnings [Moment τ] (notice : Notice τ σ) : List (Event τ) :=
  match notice.outcome.result with
  | .ok _ => []
  | .error failure => if failure.isOrdinary then [noticeWarning notice.task.name failure] else []

/-- The events of a notice, which are those of the notifier and at most a warning. -/
def events [Moment τ] (notice : Notice τ σ) : List (Event τ) :=
  .announced notice.task.name :: (notice.outcome.events.map .partner ++ notice.warnings)

theorem failure?_eq_none_iff (notice : Notice τ σ) :
    notice.failure? = none ↔
      ∀ failure, notice.outcome.result = .error failure → failure.isOrdinary = true := by
  unfold failure?
  cases hresult : notice.outcome.result with
  | ok _ => simp
  | error failure => simp

end Notice

theorem announceTask_apply [Moment τ] (notifier : Notifier τ σ) (task : Task)
    (world : World τ σ) :
    announceTask notifier task world =
      ⟨endedBy (noticeOf notifier world.scene task).failure?,
        { world with scene := (noticeOf notifier world.scene task).outcome.state },
        (noticeOf notifier world.scene task).events⟩ := by
  unfold announceTask consult
  simp only [Action.bind_apply, Action.emit_apply, Action.attempt_apply, Action.within_apply]
  cases hresult : (notifier.announce task.name world.scene).result with
  | ok _ =>
      simp [noticeOf, Notice.failure?, Notice.events, Notice.warnings, endedBy, hresult]
  | error failure =>
      by_cases hordinary : failure.isOrdinary
      · simp [noticeOf, Notice.failure?, Notice.events, Notice.warnings, endedBy, hresult,
          hordinary, record, noticeWarning]
      · simp [noticeOf, Notice.failure?, Notice.events, Notice.warnings, endedBy, hresult,
          hordinary]

/-! ### Signals -/

namespace Strike

/-- The failure by which a signal ends the pass: the one fault that is not of the process itself. -/
def failure? (pid : Int) : Strike → Option (Failure τ)
  | refused .notPermitted => some (.process .notPermitted pid)
  | _ => none

def warnings (pid : Int) : Strike → List (Event τ)
  | refused .notPermitted => []
  | refused _ => [strikeWarning pid]
  | _ => []

def events [Moment τ] (task : Task) : Strike → List (Event τ)
  | absent => [absentNote task]
  | delivered => [.signalled task.pid none]
  | refused .notPermitted => [.signalled task.pid (some .notPermitted)]
  | refused fault =>
    [.signalled task.pid (some fault), refusalNote fault task.pid, strikeWarning task.pid]

/-- What a signal leaves of the processes. -/
def leaves (pid : Int) (processes : Processes τ) : Strike → Processes τ
  | delivered => processes.kill pid
  | _ => processes

theorem failure?_eq_none_iff (strike : Strike) (pid : Int) :
    (strike.failure? pid : Option (Failure τ)) = none ↔ strike ≠ .refused .notPermitted := by
  rcases strike with _ | _ | _ | _ | _ | _ | _ <;> simp [failure?]

end Strike

theorem World.strike_eq_absent_iff (world : World τ σ) (pid : Int) :
    world.strike pid = .absent ↔ pid ∉ world.registry.snapshot := by
  unfold strike
  by_cases hlisted : pid ∈ world.registry.snapshot
  · cases hfault : world.processes.signalFault? pid <;> simp [hlisted]
  · simp [hlisted]

theorem World.strike_eq_delivered_iff (world : World τ σ) (pid : Int) :
    world.strike pid = .delivered ↔
      pid ∈ world.registry.snapshot ∧ world.processes.signalFault? pid = none := by
  unfold strike
  by_cases hlisted : pid ∈ world.registry.snapshot
  · cases hfault : world.processes.signalFault? pid <;> simp [hlisted]
  · simp [hlisted]

theorem World.strike_eq_refused_iff (world : World τ σ) (pid : Int) (fault : ProcessFault) :
    world.strike pid = .refused fault ↔
      pid ∈ world.registry.snapshot ∧ world.processes.signalFault? pid = some fault := by
  unfold strike
  by_cases hlisted : pid ∈ world.registry.snapshot
  · cases hfault : world.processes.signalFault? pid <;> simp [hlisted]
  · simp [hlisted]

theorem killProcess_apply [Moment τ] (pid : Int) (world : World τ σ) :
    killProcess pid world =
      match world.processes.signalFault? pid with
      | none => ⟨.ok true, { world with processes := world.processes.kill pid },
          [.signalled pid none]⟩
      | some .notPermitted => ⟨.error (.process .notPermitted pid), world,
          [.signalled pid (some .notPermitted)]⟩
      | some fault => ⟨.ok false, world,
          [.signalled pid (some fault), refusalNote fault pid]⟩ := by
  unfold killProcess signal processes setProcesses
  cases hfault : world.processes.signalFault? pid with
  | none => simp [Action.bind_apply, hfault]
  | some fault =>
      cases fault <;> simp [Action.bind_apply, hfault, record, refusalNote]

/-! ### Both together -/

namespace Notice

variable (strike : Int → Strike)

/-- The failure by which a task ends the pass, at its notice or else at its signal. -/
def passFailure? (notice : Notice τ σ) : Option (Failure τ) :=
  notice.failure?.or ((strike notice.task.pid).failure? notice.task.pid)

theorem passFailure?_eq_none_iff (notice : Notice τ σ) :
    notice.passFailure? strike = none ↔
      notice.failure? = none ∧ strike notice.task.pid ≠ .refused .notPermitted := by
  rw [passFailure?, Option.or_eq_none_iff, Strike.failure?_eq_none_iff]

/-- A notice that ends the pass leaves no time for a signal. -/
def passEvents [Moment τ] (notice : Notice τ σ) : List (Event τ) :=
  notice.events ++
    if notice.failure?.isSome then [] else (strike notice.task.pid).events notice.task

def passLeaves (notice : Notice τ σ) (processes : Processes τ) : Processes τ :=
  if notice.failure?.isSome then processes
  else (strike notice.task.pid).leaves notice.task.pid processes

end Notice

theorem dropTask_apply [Moment τ] (notifier : Notifier τ σ) (task : Task) (world : World τ σ) :
    dropTask notifier task world =
      let notice := noticeOf notifier world.scene task
      ⟨endedBy (notice.passFailure? world.strike),
        { world with
          scene := notice.outcome.state
          processes := notice.passLeaves world.strike world.processes },
        notice.passEvents world.strike⟩ := by
  have htask : (noticeOf notifier world.scene task).task = task := rfl
  unfold dropTask
  rw [Action.bind_apply, announceTask_apply]
  cases hnotice : (noticeOf notifier world.scene task).failure? with
  | some failure =>
      simp [endedBy, Notice.passFailure?, Notice.passLeaves, Notice.passEvents, hnotice]
  | none =>
      simp only [endedBy, Action.bind_apply, Action.current_apply]
      by_cases hlisted : task.pid ∈ world.registry.snapshot
      · cases hfault : world.processes.signalFault? task.pid with
        | none =>
            simp [hlisted, Action.bind_apply, killProcess_apply, hfault, Notice.passFailure?,
              Notice.passLeaves, Notice.passEvents, hnotice, htask, World.strike, Strike.failure?,
              Strike.leaves, Strike.events]
        | some fault =>
            cases fault <;>
              simp [hlisted, Action.bind_apply, killProcess_apply, hfault, Notice.passFailure?,
                Notice.passLeaves, Notice.passEvents, hnotice, htask, World.strike,
                Strike.failure?, Strike.leaves, Strike.events, record, strikeWarning]
      · simp [hlisted, Notice.passFailure?, Notice.passLeaves, Notice.passEvents, hnotice, htask,
          World.strike, Strike.failure?, Strike.leaves, Strike.events, record, absentNote]

end SubgraphLauncher
