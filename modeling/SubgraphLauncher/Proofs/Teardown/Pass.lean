import SubgraphLauncher.Proofs.Teardown.Task

/-!
# A whole pass

A pass over a registry is decided before it begins: by the notices, each sent in the scene that the
one before it left, and by what becomes of the signals. The first task that ends the pass, if one
does, is the last one it gets to. `teardown` is then one of four equations, and nothing after this
module opens its definition.
-/

namespace SubgraphLauncher

open RunnerAction

variable {τ σ : Type}

/-! ### The notices of a pass -/

/-- The notices of some tasks one after another, whatever becomes of each. -/
def noticesOf (notifier : Notifier τ σ) : Scene τ σ → List Task → List (Notice τ σ)
  | _, [] => []
  | scene, task :: rest =>
    let notice := noticeOf notifier scene task
    notice :: noticesOf notifier notice.outcome.state rest

@[simp] theorem noticesOf_map_task (notifier : Notifier τ σ) (scene : Scene τ σ)
    (tasks : List Task) : (noticesOf notifier scene tasks).map (·.task) = tasks := by
  induction tasks generalizing scene with
  | nil => rfl
  | cons task rest ih =>
      rw [noticesOf, List.map_cons, ih]
      rfl

/-- The scene that some notices leave behind. -/
def sceneAfter (scene : Scene τ σ) (notices : List (Notice τ σ)) : Scene τ σ :=
  notices.foldl (fun _ notice => notice.outcome.state) scene

theorem noticesOf_append (notifier : Notifier τ σ) (scene : Scene τ σ) (front back : List Task) :
    noticesOf notifier scene (front ++ back) =
      noticesOf notifier scene front ++
        noticesOf notifier (sceneAfter scene (noticesOf notifier scene front)) back := by
  induction front generalizing scene with
  | nil => rfl
  | cons task rest ih =>
      rw [List.cons_append, noticesOf, noticesOf, ih]
      rfl

theorem exists_scene_of_mem_noticesOf {notifier : Notifier τ σ} {scene : Scene τ σ}
    {tasks : List Task} {notice : Notice τ σ} (hmem : notice ∈ noticesOf notifier scene tasks) :
    ∃ there, notice = noticeOf notifier there notice.task := by
  induction tasks generalizing scene with
  | nil => cases hmem
  | cons task rest ih =>
      rw [noticesOf, List.mem_cons] at hmem
      rcases hmem with rfl | hmem
      · exact ⟨scene, rfl⟩
      · exact ih hmem

/-- The notices that a pass gets to: all up to the first that ends it. -/
def reached (strike : Int → Strike) : List (Notice τ σ) → List (Notice τ σ)
  | [] => []
  | notice :: rest =>
    notice :: if (notice.passFailure? strike).isSome then [] else reached strike rest

/-- The failure that ends a pass over some notices. -/
def passFailure? (strike : Int → Strike) (notices : List (Notice τ σ)) : Option (Failure τ) :=
  notices.findSome? (·.passFailure? strike)

theorem passFailure?_eq_none_iff (strike : Int → Strike) (notices : List (Notice τ σ)) :
    passFailure? strike notices = none ↔
      ∀ notice ∈ notices, notice.passFailure? strike = none := by
  rw [passFailure?, List.findSome?_eq_none_iff]

theorem passFailure?_append_cons {strike : Int → Strike} {front back : List (Notice τ σ)}
    {notice : Notice τ σ} {failure : Failure τ} (hfront : passFailure? strike front = none)
    (hnotice : notice.passFailure? strike = some failure) :
    passFailure? strike (front ++ notice :: back) = some failure := by
  rw [passFailure?, List.findSome?_append, ← passFailure?, hfront, Option.none_or,
    List.findSome?_cons, hnotice]

theorem reached_of_passFailure?_eq_none {strike : Int → Strike} {notices : List (Notice τ σ)}
    (hnone : passFailure? strike notices = none) : reached strike notices = notices := by
  induction notices with
  | nil => rfl
  | cons notice rest ih =>
      rw [passFailure?_eq_none_iff, List.forall_mem_cons] at hnone
      rw [reached, hnone.1]
      exact congrArg (notice :: ·) (ih ((passFailure?_eq_none_iff _ _).mpr hnone.2))

/-- Behind a task that ends the pass nothing is reached. -/
theorem reached_append_cons {strike : Int → Strike} {front back : List (Notice τ σ)}
    {notice : Notice τ σ} {failure : Failure τ} (hfront : passFailure? strike front = none)
    (hnotice : notice.passFailure? strike = some failure) :
    reached strike (front ++ notice :: back) = front ++ [notice] := by
  induction front with
  | nil => simp [reached, hnotice]
  | cons first rest ih =>
      rw [passFailure?_eq_none_iff, List.forall_mem_cons] at hfront
      rw [List.cons_append, reached, hfront.1]
      exact congrArg (first :: ·) (ih ((passFailure?_eq_none_iff _ _).mpr hfront.2))

/-! ### Announcing and signalling -/

def processesAfter (strike : Int → Strike) (processes : Processes τ)
    (notices : List (Notice τ σ)) : Processes τ :=
  notices.foldl (fun processes notice => notice.passLeaves strike processes) processes

theorem Notice.passLeaves_signalFaults (strike : Int → Strike) (notice : Notice τ σ)
    (processes : Processes τ) :
    (notice.passLeaves strike processes).signalFaults = processes.signalFaults := by
  unfold passLeaves
  split
  · rfl
  · cases strike notice.task.pid <;> rfl

/-- A pass goes on as it began: neither the scene nor a signal changes what becomes of the
others. -/
theorem World.strike_congr {world world' : World τ σ} (hregistry : world'.registry = world.registry)
    (hfaults : world'.processes.signalFaults = world.processes.signalFaults) :
    world'.strike = world.strike := by
  funext pid
  simp only [strike, Processes.signalFault?, hregistry, hfaults]

theorem dropAll_apply [Moment τ] (notifier : Notifier τ σ) (tasks : List Task)
    (world : World τ σ) :
    dropAll notifier tasks world =
      let notices := noticesOf notifier world.scene tasks
      let got := reached world.strike notices
      ⟨endedBy (passFailure? world.strike notices),
        { world with
          scene := sceneAfter world.scene got
          processes := processesAfter world.strike world.processes got },
        got.flatMap (·.passEvents world.strike)⟩ := by
  induction tasks generalizing world with
  | nil => rfl
  | cons task rest ih =>
      simp only [dropAll, Action.bind_apply, dropTask_apply]
      cases hfailure : (noticeOf notifier world.scene task).passFailure? world.strike with
      | some failure =>
          simp [endedBy, noticesOf, reached, passFailure?, hfailure, sceneAfter, processesAfter]
      | none =>
          have hstrike : World.strike { world with
              scene := (noticeOf notifier world.scene task).outcome.state
              processes := (noticeOf notifier world.scene task).passLeaves world.strike
                world.processes } = world.strike :=
            World.strike_congr rfl (Notice.passLeaves_signalFaults _ _ _)
          simp only [endedBy, ih, hstrike]
          simp [noticesOf, reached, passFailure?, hfailure, sceneAfter, processesAfter]

/-! ### Looking at the children -/

/-- The processes after a look at the child of each task. -/
def Processes.lookAt (processes : Processes τ) (tasks : List Task) : Processes τ :=
  tasks.foldl (fun processes task => processes.look task.child) processes

theorem pollTask_apply (task : Task) (world : World τ σ) :
    pollTask task world =
      ⟨.ok ((world.processes.children[task.child]?).bind (·.exitCode)),
        { world with processes := world.processes.look task.child }, [.polled task.pid]⟩ := by
  simp [pollTask, processes, setProcesses, Action.bind_apply]

theorem pollAll_apply (tasks : List Task) (world : World τ σ) :
    pollAll tasks world =
      ⟨.ok (), { world with processes := world.processes.lookAt tasks },
        tasks.map (.polled ·.pid)⟩ := by
  induction tasks generalizing world with
  | nil => rfl
  | cons task rest ih =>
      simp [pollAll, pollTask_apply, Action.bind_apply, ih, Processes.lookAt]

/-! ### The four ways of a teardown -/

/-- The identifiers that a reading of the process table finds. -/
def World.processIds [Moment τ] (world : World τ σ) : List Int :=
  (world.scene.network.running.map (·.pid) ++ world.processes.listedPids).eraseDups

/-- The world after the process table has been read. -/
def World.refreshed [Moment τ] (world : World τ σ) : World τ σ :=
  { world with registry := { world.registry with snapshot := world.processIds } }

def openingNote (count : Nat) : Event τ :=
  .record ⟨.info, .runner, "Dropping " ++ toString count ++ " spawned background tasks"⟩

def refreshNote (count : Nat) : Event τ :=
  .record ⟨.debug, .processes, "Process table refreshed: " ++ toString count ++ " processes."⟩

def closingNote : Event τ := .record ⟨.info, .runner, "Done dropping tasks"⟩

theorem refreshSnapshot_of_denied [Moment τ] {world : World τ σ}
    (hdenied : world.scene.network.processesDenied = true) :
    refreshSnapshot world = ⟨.error (.process .denied 0), world, []⟩ := by
  simp [refreshSnapshot, Action.bind_apply, hdenied]

theorem refreshSnapshot_of_readable [Moment τ] {world : World τ σ}
    (hreadable : world.scene.network.processesDenied = false) :
    refreshSnapshot world = ⟨.ok (), world.refreshed, [refreshNote world.processIds.length]⟩ := by
  simp [refreshSnapshot, Action.bind_apply, hreadable, World.refreshed, World.processIds, record,
    refreshNote]

section Teardown

variable [Moment τ] (notifier : Notifier τ σ) (world : World τ σ)

/-- The notices that a pass beginning now would send if nothing ended it. -/
def World.notices : List (Notice τ σ) := noticesOf notifier world.scene world.registry.tasks

/-- What becomes of the signals of a pass that begins now. -/
def World.fate (pid : Int) : Strike := world.refreshed.strike pid

theorem World.fate_eq_absent_iff (pid : Int) :
    world.fate pid = .absent ↔ pid ∉ world.processIds :=
  World.strike_eq_absent_iff world.refreshed pid

theorem World.fate_eq_delivered_iff (pid : Int) :
    world.fate pid = .delivered ↔
      pid ∈ world.processIds ∧ world.processes.signalFault? pid = none :=
  World.strike_eq_delivered_iff world.refreshed pid

theorem World.fate_eq_refused_iff (pid : Int) (fault : ProcessFault) :
    world.fate pid = .refused fault ↔
      pid ∈ world.processIds ∧ world.processes.signalFault? pid = some fault :=
  World.strike_eq_refused_iff world.refreshed pid fault

/-- What a pass that begins now does about its tasks, its notices and signals. -/
def World.dropEvents : List (Event τ) :=
  (reached world.fate (world.notices notifier)).flatMap (·.passEvents world.fate)

/-- The world behind the notices and signals of a pass that begins now. -/
def World.dropped : World τ σ :=
  { world.refreshed with
    scene := sceneAfter world.scene (reached world.fate (world.notices notifier))
    processes := processesAfter world.fate world.processes
      (reached world.fate (world.notices notifier)) }

theorem dropAll_refreshed :
    dropAll notifier world.registry.tasks world.refreshed =
      ⟨endedBy (passFailure? world.fate (world.notices notifier)), world.dropped notifier,
        world.dropEvents notifier⟩ := by
  rw [dropAll_apply]
  rfl

variable {world}

theorem teardown_of_empty (hempty : world.registry.tasks = []) :
    teardown notifier world = ⟨.ok (), world, []⟩ := by
  simp [teardown, tasks, Action.bind_apply, hempty]

theorem teardown_of_denied (hsome : world.registry.tasks ≠ [])
    (hdenied : world.scene.network.processesDenied = true) :
    teardown notifier world =
      ⟨.error (.process .denied 0), world, [openingNote world.registry.tasks.length]⟩ := by
  simp [teardown, tasks, Action.bind_apply, hsome, refreshSnapshot_of_denied hdenied, record,
    openingNote]

theorem teardown_of_failure (hreadable : world.scene.network.processesDenied = false)
    {failure : Failure τ}
    (hfailure : passFailure? world.fate (world.notices notifier) = some failure) :
    teardown notifier world =
      ⟨.error failure, world.dropped notifier,
        openingNote world.registry.tasks.length :: refreshNote world.processIds.length ::
          world.dropEvents notifier⟩ := by
  have hsome : world.registry.tasks ≠ [] := by
    intro hempty
    simp [World.notices, hempty, noticesOf, passFailure?] at hfailure
  simp [teardown, tasks, Action.bind_apply, hsome, refreshSnapshot_of_readable hreadable, record,
    openingNote, dropAll_refreshed, hfailure, endedBy]

theorem teardown_of_completion (hsome : world.registry.tasks ≠ [])
    (hreadable : world.scene.network.processesDenied = false)
    (hnone : passFailure? world.fate (world.notices notifier) = none) :
    teardown notifier world =
      ⟨.ok (),
        { world.dropped notifier with
          registry := ⟨[], world.processIds⟩
          processes := (world.dropped notifier).processes.lookAt world.registry.tasks },
        openingNote world.registry.tasks.length :: refreshNote world.processIds.length ::
          (world.dropEvents notifier ++ world.registry.tasks.map (.polled ·.pid) ++
            [closingNote])⟩ := by
  have hregistry : (world.dropped notifier).registry = ⟨world.registry.tasks, world.processIds⟩ :=
    rfl
  simp [teardown, tasks, setTasks, Action.bind_apply, hsome, refreshSnapshot_of_readable hreadable,
    record, openingNote, closingNote, dropAll_refreshed, hnone, endedBy, pollAll_apply, hregistry]

/-- A pass fails with nothing exactly if it has nothing to do or nothing that ends it. -/
theorem teardown_result_eq_ok_iff :
    (teardown notifier world).result = .ok () ↔
      world.registry.tasks = [] ∨ world.scene.network.processesDenied = false ∧
        passFailure? world.fate (world.notices notifier) = none := by
  by_cases hempty : world.registry.tasks = []
  · simp [teardown_of_empty notifier hempty, hempty]
  · cases hdenied : world.scene.network.processesDenied with
    | true => simp [teardown_of_denied notifier hempty hdenied, hempty]
    | false =>
        cases hfailure : passFailure? world.fate (world.notices notifier) with
        | some failure => simp [teardown_of_failure notifier hdenied hfailure, hempty]
        | none => simp [teardown_of_completion notifier hempty hdenied hfailure]

end Teardown

end SubgraphLauncher
