import SubgraphLauncher.Proofs.Program.Arguments
import SubgraphLauncher.Runner.Launch

/-!
# Attempts to launch

An attempt to launch a subgraph goes one of five ways. Three of them end before the host is asked:
the name is taken, the line holds no word, or its first word is no command that is installed. They
are tried in this order, and each refuses the attempt at once, so that nothing is seen of it and
nothing has changed. Otherwise the host is asked for one process, which it fails to launch or
launches. Only the last way leaves anything behind.
-/

namespace SubgraphLauncher

open SubgraphLauncher.Action RunnerAction

variable {τ σ : Type}

/-- The argument vector with which the host is asked for a process. -/
def Event.launched? : Event τ → Option (List String)
  | .launched argv _ => some argv
  | _ => none

theorem filterMap_launched?_eq_nil {events : List (Event τ)}
    (hnone : ∀ event ∈ events, event.launched? = none) :
    events.filterMap Event.launched? = [] :=
  List.filterMap_eq_nil_iff.mpr hnone

/-- The names that are taken. -/
def Registry.names (registry : Registry) : List String := registry.tasks.map (·.name)

theorem Registry.tracks_iff {registry : Registry} {name : String} :
    registry.tracks name = true ↔ name ∈ registry.names := by
  simp [tracks, names]

/-- The action ends with a cause and has done nothing: no event is seen, and nothing has changed. -/
def Refuses {α : Type} (x : RunnerAction τ σ α) (world : World τ σ) (cause : TaskFailure τ) :
    Prop :=
  x world = ⟨.error (.task cause), world, []⟩

theorem Processes.launch_children (processes : Processes τ) :
    processes.launch.2.children =
      processes.children ++ [⟨processes.launch.1, none, false, false⟩] := by
  unfold launch
  split <;> rfl

/-- The task under which the next child would be registered. -/
def World.nextTask (world : World τ σ) (name : String) : Task :=
  ⟨name, world.processes.launch.1, world.processes.children.length⟩

/-- The world with one more child, registered under a name. -/
def World.launched (world : World τ σ) (name : String) : World τ σ :=
  { world with
    processes := world.processes.launch.2
    registry := { world.registry with
      tasks := world.registry.tasks ++ [world.nextTask name] } }

/-- The host could not launch a process: the system failed, or refused a value that it was given. -/
def Failure.IsOfLaunch (failure : Failure τ) : Prop :=
  failure.isIn .system = true ∨ failure.isIn .value = true

instance (failure : Failure τ) : Decidable failure.IsOfLaunch :=
  inferInstanceAs (Decidable (_ ∨ _))

section Definitions

variable [Moment τ]

/-- What a failure of the host is reported as, with the argument vector that it was asked for. Only
a failed launch has a cause of its own. -/
def Failure.reported (failure : Failure τ) (argv : List String) : Failure τ :=
  if failure.IsOfLaunch then .task (.spawnFailure argv failure.message) else failure

def failedNotes (argv : List String) (failure : Failure τ) : List Record :=
  if failure.IsOfLaunch then
    [⟨.error, .launch, "Failed to start `" ++ String.intercalate " " argv ++ "`: " ++
      failure.message⟩]
  else []

theorem source_of_mem_failedNotes {argv : List String} {failure : Failure τ} {written : Record}
    (hmem : written ∈ failedNotes argv failure) : written.source = .launch := by
  unfold failedNotes at hmem
  split at hmem
  · rw [List.mem_singleton.mp hmem]
  · cases hmem

/-- How an attempt goes to launch a line under a name, with the words of the line. -/
inductive Attempt (setup : RunnerSetup τ σ) (name line : String) (world : World τ σ) :
    List String → Outcome (Event τ) (World τ σ) (Failure τ) Unit → Prop
  | taken {argv : List String} (htaken : name ∈ world.registry.names) :
      Attempt setup name line world argv ⟨.error (.task (.duplicateTask name)), world, []⟩
  | blank (hfree : name ∉ world.registry.names) :
      Attempt setup name line world [] ⟨.error (.task .emptyCommand), world, []⟩
  | missing {executable : String} {arguments : List String} (hfree : name ∉ world.registry.names)
      (hmissing : setup.isInstalled executable = false) :
      Attempt setup name line world (executable :: arguments)
        ⟨.error (.task (.executableNotFound executable)), world, []⟩
  | failed {executable : String} {arguments : List String} {failure : Failure τ}
      (hfree : name ∉ world.registry.names) (hinstalled : setup.isInstalled executable = true)
      (hfailure : world.processes.launchFault? executable = some failure) :
      Attempt setup name line world (executable :: arguments)
        ⟨.error (failure.reported (executable :: arguments)), world,
          .record ⟨.info, .runner, "Starting `" ++ trimmed line ++ "`"⟩ ::
            .launched (executable :: arguments) (allLaunchOptions world.processes.platform) ::
            (failedNotes (executable :: arguments) failure).map .record⟩
  | launched {executable : String} {arguments : List String}
      (hfree : name ∉ world.registry.names) (hinstalled : setup.isInstalled executable = true)
      (hlaunched : world.processes.launchFault? executable = none) :
      Attempt setup name line world (executable :: arguments)
        ⟨.ok (), world.launched name,
          [.record ⟨.info, .runner, "Starting `" ++ trimmed line ++ "`"⟩,
            .launched (executable :: arguments) (allLaunchOptions world.processes.platform),
            .record ⟨.debug, .launch, executable ++ " started with PID: " ++
              toString world.processes.launch.1⟩,
            .record ⟨.info, .runner, "Subgraph '" ++ name ++ "' started with PID: " ++
              toString world.processes.launch.1⟩]⟩

end Definitions

section Launch

variable [Moment τ] (setup : RunnerSetup τ σ)

theorem launchProcess_of_failure (command : Command) {world : World τ σ} {failure : Failure τ}
    (hfailure : world.processes.launchFault? command.executable = some failure) :
    launchProcess command world =
      ⟨.error (failure.reported command.argv), world,
        .launched command.argv (allLaunchOptions world.processes.platform) ::
          (failedNotes command.argv failure).map .record⟩ := by
  have hcheck : (failure.isIn .system || failure.isIn .value) = true ↔ failure.IsOfLaunch := by
    rw [Bool.or_eq_true]
    rfl
  unfold launchProcess processes Failure.reported failedNotes
  simp only [bind_apply, current_apply, pure_apply, emit_apply, hfailure, hcheck]
  split <;> rfl

theorem launchProcess_of_no_failure (command : Command) {world : World τ σ}
    (hnone : world.processes.launchFault? command.executable = none) :
    launchProcess command world =
      ⟨.ok (world.processes.launch.1, world.processes.children.length),
        { world with processes := world.processes.launch.2 },
        [.launched command.argv (allLaunchOptions world.processes.platform),
          .record ⟨.debug, .launch, command.executable ++ " started with PID: " ++
            toString world.processes.launch.1⟩]⟩ := by
  unfold launchProcess processes setProcesses
  simp only [bind_apply, current_apply, pure_apply, emit_apply, hnone]
  rfl

/-- A spawn that nothing refuses comes down to the launch. -/
theorem spawn_of_accepted {name line : String} {world : World τ σ} {command : Command}
    (hfree : world.registry.tracks name = false) (hparse : Command.parse? line = some command)
    (hinstalled : setup.isInstalled command.executable = true) :
    spawn setup name line world =
      (record .info .runner ("Starting `" ++ trimmed line ++ "`") >>= fun _ =>
        launchProcess command >>= fun (pid, child) => do
          setTasks ((← tasks) ++ [⟨name, pid, child⟩])
          record .info .runner
            ("Subgraph '" ++ name ++ "' started with PID: " ++ toString pid)) world := by
  unfold spawn
  rw [bind_apply, current_apply]
  simp only [hfree, hparse, hinstalled, Bool.not_true, Bool.false_eq_true, if_false]
  rfl

/-- Every attempt goes one of the five ways. -/
theorem spawn_attempt (name line : String) (world : World τ σ) :
    Attempt setup name line world (wordsOf line) (spawn setup name line world) := by
  -- the cases come in the order of the checks, so each knows that the earlier ones have passed
  by_cases htaken : name ∈ world.registry.names
  · have hrun : Refuses (spawn setup name line) world (.duplicateTask name) := by
      unfold Refuses spawn
      simp only [bind_apply, current_apply, Registry.tracks_iff.mpr htaken, if_true, fail,
        raise_apply, List.append_nil]
    exact hrun ▸ .taken htaken
  have hfree : world.registry.tracks name = false :=
    Bool.eq_false_iff.mpr (Registry.tracks_iff.not.mpr htaken)
  cases hwords : wordsOf line with
  | nil =>
      have hrun : Refuses (spawn setup name line) world .emptyCommand := by
        unfold Refuses spawn
        simp only [bind_apply, current_apply, hfree, Command.parse?_of_no_words hwords,
          Bool.false_eq_true, if_false, fail, raise_apply, List.append_nil]
      exact hrun ▸ .blank htaken
  | cons executable arguments =>
      have hparse := Command.parse?_of_words hwords
      cases hinstalled : setup.isInstalled executable with
      | false =>
          have hrun : Refuses (spawn setup name line) world (.executableNotFound executable) := by
            unfold Refuses spawn
            simp only [bind_apply, current_apply, hfree, hparse, hinstalled, Bool.not_false,
              Bool.false_eq_true, if_true, if_false, fail, raise_apply, List.append_nil]
          exact hrun ▸ .missing htaken hinstalled
      | true =>
          rw [spawn_of_accepted setup hfree hparse hinstalled]
          cases hfailure : world.processes.launchFault? executable with
          | some failure =>
              have hasked := launchProcess_of_failure ⟨executable, arguments⟩ hfailure
              simp only [bind_apply, record, emit_apply, hasked]
              exact .failed htaken hinstalled hfailure
          | none =>
              have hasked := launchProcess_of_no_failure ⟨executable, arguments⟩ hfailure
              simp only [bind_apply, record, emit_apply, hasked, tasks, setTasks, current_apply,
                change_apply, pure_apply]
              exact .launched htaken hinstalled hfailure

/-! ### What an attempt comes to -/

section Causes

variable {name line : String} {world : World τ σ}

theorem spawn_refuses_duplicate_iff :
    Refuses (spawn setup name line) world (.duplicateTask name) ↔ name ∈ world.registry.names := by
  have hattempt := spawn_attempt setup name line world
  unfold Refuses
  generalize wordsOf line = argv, spawn setup name line world = run at hattempt ⊢
  cases hattempt with
  | taken htaken => simp [htaken]
  | blank hfree => simp [hfree]
  | missing hfree => simp [hfree]
  | failed hfree => simp [hfree]
  | launched hfree => simp [hfree]

theorem spawn_refuses_blank_iff (hfree : name ∉ world.registry.names) :
    Refuses (spawn setup name line) world .emptyCommand ↔ wordsOf line = [] := by
  have hattempt := spawn_attempt setup name line world
  unfold Refuses
  generalize wordsOf line = argv, spawn setup name line world = run at hattempt ⊢
  cases hattempt with
  | taken htaken => exact absurd htaken hfree
  | _ => simp

variable {executable : String} {arguments : List String}

theorem spawn_refuses_missing_iff (hfree : name ∉ world.registry.names)
    (hwords : wordsOf line = executable :: arguments) :
    Refuses (spawn setup name line) world (.executableNotFound executable) ↔
      setup.isInstalled executable = false := by
  have hattempt := spawn_attempt setup name line world
  rw [hwords] at hattempt
  unfold Refuses
  generalize spawn setup name line world = run at hattempt ⊢
  cases hattempt with
  | taken htaken => exact absurd htaken hfree
  | missing _ hmissing => simp [hmissing]
  | failed _ hinstalled => simp [hinstalled]
  | launched _ hinstalled => simp [hinstalled]

/-- Past the three checks the host is asked once, and what it says decides the attempt. -/
theorem spawn_asks_of_installed (hfree : name ∉ world.registry.names)
    (hwords : wordsOf line = executable :: arguments)
    (hinstalled : setup.isInstalled executable = true) :
    let run := spawn setup name line world
    run.events.filterMap Event.launched? = [executable :: arguments] ∧
      run.result = match world.processes.launchFault? executable with
        | some failure => .error (failure.reported (executable :: arguments))
        | none => .ok () := by
  have hattempt := spawn_attempt setup name line world
  rw [hwords] at hattempt
  dsimp only
  generalize spawn setup name line world = run at hattempt ⊢
  cases hattempt with
  | taken htaken => exact absurd htaken hfree
  | missing _ hmissing => cases hmissing.symm.trans hinstalled
  | failed _ _ hfailure => simp [hfailure, List.filterMap_cons, Event.launched?]
  | launched _ _ hlaunched => simp [hlaunched, List.filterMap_cons, Event.launched?]

end Causes

/-- The world is what it was, or there is one more child in it and a task for that child. -/
theorem spawn_cases (name line : String) (world : World τ σ) :
    (∃ failure, (spawn setup name line world).result = .error failure ∧
      (spawn setup name line world).state = world) ∨
    name ∉ world.registry.names ∧ (spawn setup name line world).result = .ok () ∧
      (spawn setup name line world).state = world.launched name := by
  have hattempt := spawn_attempt setup name line world
  generalize wordsOf line = argv, spawn setup name line world = run at hattempt ⊢
  cases hattempt with
  | launched hfree => exact .inr ⟨hfree, rfl, rfl⟩
  | _ => exact .inl ⟨_, rfl, rfl⟩

/-- Where the attempt succeeds, the host was asked for one process. -/
theorem spawn_asks_of_ok {name line : String} {world : World τ σ}
    (hlaunched : (spawn setup name line world).result = .ok ()) :
    (spawn setup name line world).events.filterMap Event.launched? = [wordsOf line] := by
  have hattempt := spawn_attempt setup name line world
  generalize wordsOf line = argv, spawn setup name line world = run at hattempt hlaunched ⊢
  cases hattempt with
  | launched => rfl
  | _ => cases hlaunched

/-- An attempt fails for one cause at most, the first that applies, and changes nothing if it fails.
Only where the name is free, the line has a word, and the command is installed is the host asked for
a process. If it can launch one, the child is there and registered under the name. -/
theorem spawn_refused_or_asked (name line : String) (world : World τ σ) :
    let run := spawn setup name line world
    (Refuses (spawn setup name line) world (.duplicateTask name) ↔
      name ∈ world.registry.names) ∧
    (name ∉ world.registry.names →
      (Refuses (spawn setup name line) world .emptyCommand ↔ wordsOf line = [])) ∧
    (∀ executable arguments, name ∉ world.registry.names →
      wordsOf line = executable :: arguments →
        (Refuses (spawn setup name line) world (.executableNotFound executable) ↔
          setup.isInstalled executable = false) ∧
        (setup.isInstalled executable = true →
          run.events.filterMap Event.launched? = [executable :: arguments] ∧
          ∀ failure, run.result = .error failure ↔
            ∃ fault, world.processes.launchFault? executable = some fault ∧
              (fault.IsOfLaunch ∧
                  failure = .task (.spawnFailure (executable :: arguments) fault.message) ∨
                ¬ fault.IsOfLaunch ∧ failure = fault))) ∧
    (∀ failure, run.result = .error failure → run.state = world) ∧
    (run.result = .ok () → ∃ pid,
      run.state.processes.children = world.processes.children ++ [⟨pid, none, false, false⟩] ∧
      run.state.registry = { world.registry with
        tasks := world.registry.tasks ++ [⟨name, pid, world.processes.children.length⟩] }) := by
  have hcases := spawn_cases setup name line world
  refine ⟨spawn_refuses_duplicate_iff setup, spawn_refuses_blank_iff setup, ?_, ?_, ?_⟩
  · intro executable arguments hfree hwords
    refine ⟨spawn_refuses_missing_iff setup hfree hwords, fun hinstalled => ?_⟩
    obtain ⟨hasked, hresult⟩ := spawn_asks_of_installed setup hfree hwords hinstalled
    refine ⟨hasked, fun failure => ?_⟩
    rw [hresult]
    cases world.processes.launchFault? executable with
    | none => simp
    | some fault =>
        by_cases hlaunch : fault.IsOfLaunch <;>
          simp [Failure.reported, hlaunch, eq_comm]
  · intro failure hfailure
    rcases hcases with ⟨_, _, hstate⟩ | ⟨_, hresult, _⟩
    · exact hstate
    · cases hresult.symm.trans hfailure
  · intro hlaunched
    rcases hcases with ⟨_, hresult, _⟩ | ⟨_, _, hstate⟩
    · cases hresult.symm.trans hlaunched
    · rw [hstate]
      exact ⟨world.processes.launch.1, world.processes.launch_children, rfl⟩

end Launch

end SubgraphLauncher
