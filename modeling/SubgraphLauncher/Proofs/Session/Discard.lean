import SubgraphLauncher.Partner.Script
import SubgraphLauncher.Proofs.Session.Launches
import SubgraphLauncher.Proofs.Teardown.Reach

/-!
# What a discard does for the children of its runner

A runner that is discarded makes one more pass, and whatever ends that pass is only seen. So the
pass is all that a running child can hope for: `discard_serves_iff` says for which children it comes
to a notice and a signal. Unless the host hides a child, all that run and can be signalled are still
tracked and listed, whatever failed before; they are missed exactly where the process table cannot
be read, or where a notice or a signal ends the pass too early.
-/

namespace SubgraphLauncher

variable {τ σ : Type}

/-- Whether a step makes the host conceal running children. -/
def Step.hides : Step τ σ → Bool
  | .alter _ _ (some true) => true
  | _ => false

/-- A world in which no child behind the first ones is out of sight. -/
structure World.Accounts (origin : Nat) (world : World τ σ) : Prop where
  shown : ∀ place child, origin ≤ place → world.processes.children[place]? = some child →
    child.hidden = false
  tracked : ∀ place child, origin ≤ place → world.processes.children[place]? = some child →
    child.exitCode = none → world.processes.signalFault? child.pid = none →
    ∃ task ∈ world.registry.tasks, task.child = place

theorem World.mem_processIds_of_running [Moment τ] {world : World τ σ} {child : Child}
    (hchild : child ∈ world.processes.children) (hrunning : child.exitCode = none)
    (hshown : child.hidden = false) : child.pid ∈ world.processIds := by
  have hlisted : world.processes.isListed child = true := by
    rw [Processes.isListed, hrunning, hshown]
    rfl
  rw [processIds, List.mem_eraseDups, List.mem_append]
  exact .inr (List.mem_map_of_mem (List.mem_filter.mpr ⟨hchild, hlisted⟩))

section Accounts

variable {origin : Nat} {before after : World τ σ}

/-- A runner that has launched nothing has nothing to account for. -/
theorem World.Accounts.of_length (world : World τ σ) :
    world.Accounts world.processes.children.length := by
  have hnone (place : Nat) (child : Child) (hplace : world.processes.children.length ≤ place) :
      world.processes.children[place]? ≠ some child := by
    rw [List.getElem?_eq_none hplace]
    exact (Option.some_ne_none child).symm
  constructor
  · intro place child hplace hchild
    exact absurd hchild (hnone place child hplace)
  · intro place child hplace hchild
    exact absurd hchild (hnone place child hplace)

theorem World.Accounts.of_book (haccounts : before.Accounts origin)
    (hbook : after.book = before.book) : after.Accounts origin := by
  simp only [book, Prod.mk.injEq] at hbook
  obtain ⟨hregistry, hprocesses⟩ := hbook
  constructor
  · rw [hprocesses]
    exact haccounts.shown
  · rw [hprocesses, hregistry]
    exact haccounts.tracked

theorem World.Accounts.of_launched {name : String} (haccounts : before.Accounts origin)
    (hlaunched : Launched name before after) : after.Accounts origin := by
  have hsplit (place : Nat) (child : Child)
      (hchild : after.processes.children[place]? = some child) :
      before.processes.children[place]? = some child ∨
        child = ⟨before.processes.launch.1, none, false, false⟩ ∧
          place = before.processes.children.length := by
    rw [hlaunched.processes, Processes.launch_children, List.getElem?_append] at hchild
    split at hchild
    · exact .inl hchild
    · right
      rename_i hbound
      have hlast : place - before.processes.children.length = 0 := by
        by_contra hbeyond
        rw [List.getElem?_eq_none (by simp; omega)] at hchild
        cases hchild
      rw [hlast] at hchild
      exact ⟨(Option.some.inj hchild).symm, by omega⟩
  constructor
  · intro place child hplace hchild
    rcases hsplit place child hchild with hold | ⟨rfl, -⟩
    · exact haccounts.shown place child hplace hold
    · rfl
  · intro place child hplace hchild hrunning hfault
    rw [hlaunched.tasks]
    rcases hsplit place child hchild with hold | ⟨-, rfl⟩
    · rw [Processes.signalFault?, hlaunched.processes, Processes.launch_signalFaults] at hfault
      obtain ⟨task, htask, hat⟩ := haccounts.tracked place child hplace hold hrunning hfault
      exact ⟨task, List.mem_append_left _ htask, hat⟩
    · exact ⟨before.nextTask name, List.mem_append_right _ List.mem_cons_self, rfl⟩

/-- Signals take nothing off the account if each task is still tracked or has had its signal. -/
theorem World.Accounts.of_struck [Moment τ] {pids : List Int} (haccounts : before.Accounts origin)
    (hplaced : ∀ task ∈ before.registry.tasks,
      before.processes.pidAt? task.child = some task.pid)
    (hstruck : Struck pids before.processes after.processes)
    (hkept : ∀ task ∈ before.registry.tasks, task ∈ after.registry.tasks ∨
      (task.pid ∈ before.processIds → before.processes.signalFault? task.pid = none →
        task.pid ∈ pids)) :
    after.Accounts origin := by
  constructor
  · intro place child hplace hchild
    obtain ⟨old, hold, hfollows⟩ := hstruck.exists_before hchild
    rw [hfollows.hidden]
    exact haccounts.shown place old hplace hold
  · intro place child hplace hchild hrunning hfault
    obtain ⟨old, hold, hfollows⟩ := hstruck.exists_before hchild
    rw [hstruck.signalFault?, hfollows.pid] at hfault
    rw [hfollows.exitCode] at hrunning
    obtain ⟨hran, hmissed⟩ := (Child.struck_exitCode_eq_none_iff _ _).mp hrunning
    obtain ⟨task, htask, rfl⟩ := haccounts.tracked place old hplace hold hran hfault
    rcases hkept task htask with htask' | hsignalled
    · exact ⟨task, htask', rfl⟩
    · have hpid : old.pid = task.pid := Processes.pid_eq_of_pidAt? (hplaced task htask) hold
      have hlisted : old.pid ∈ before.processIds :=
        World.mem_processIds_of_running (List.mem_of_getElem? hold) hran
          (haccounts.shown _ old hplace hold)
      rw [hpid] at hlisted hfault hmissed
      exact absurd (hsignalled hlisted hfault) hmissed

/-- The host may end a child, but it does not hide one. -/
theorem World.Accounts.of_altered {pid : Int} {exitCode : Option Int} {hidden : Option Bool}
    (haccounts : before.Accounts origin) (hhidden : hidden ≠ some true)
    (hregistry : after.registry = before.registry)
    (hprocesses : after.processes = before.processes.update pid (Child.altered exitCode hidden)) :
    after.Accounts origin := by
  have hfaults (other : Int) :
      after.processes.signalFault? other = before.processes.signalFault? other := by
    rw [hprocesses]
    rfl
  have hbefore (place : Nat) (child : Child)
      (hchild : after.processes.children[place]? = some child) :
      ∃ old, before.processes.children[place]? = some old ∧ child.pid = old.pid ∧
        (child.exitCode = none → old.exitCode = none) ∧
        (old.hidden = false → child.hidden = false) := by
    rw [hprocesses, Processes.update, List.getElem?_map, Option.map_eq_some_iff] at hchild
    obtain ⟨old, hold, rfl⟩ := hchild
    refine ⟨old, hold, ?_⟩
    split
    · refine ⟨rfl, fun hrunning => ?_, fun hshown => ?_⟩
      · cases exitCode with
        | none => exact hrunning
        | some code => cases hrunning
      · rcases hidden with _ | _ | _
        · exact hshown
        · rfl
        · exact absurd rfl hhidden
    · exact ⟨rfl, id, id⟩
  constructor
  · intro place child hplace hchild
    obtain ⟨old, hold, -, -, hshown⟩ := hbefore place child hchild
    exact hshown (haccounts.shown place old hplace hold)
  · intro place child hplace hchild hrunning hfault
    obtain ⟨old, hold, hpid, hran, -⟩ := hbefore place child hchild
    rw [hfaults, hpid] at hfault
    rw [hregistry]
    exact haccounts.tracked place old hplace hold (hran hrunning) hfault

end Accounts

section Discard

variable [Moment τ] (setup : RunnerSetup τ σ) (tidy : σ → σ)

theorem Session.next_accounts {session : Session τ σ} (hsound : session.Sound)
    (haccounts : session.world.Accounts session.origin) {step : Step τ σ}
    (hshown : step.hides = false) :
    (session.next setup tidy step).world.Accounts (session.next setup tidy step).origin := by
  have heffect := step.run_effect setup tidy session.world
  unfold Session.next
  generalize (step.run setup tidy session.world).state = after at heffect
  dsimp only
  cases hrenews : step.renews with
  | true =>
      rw [if_pos rfl]
      exact World.Accounts.of_length _
  | false =>
      rw [if_neg Bool.false_ne_true]
      cases heffect with
      | kept hopen hbook => exact haccounts.of_book hbook
      | launched name hsubject hlaunched => exact haccounts.of_launched hlaunched
      | touched pids hopen htasks hstruck =>
          refine haccounts.of_struck hsound.placed hstruck fun task htask => .inl ?_
          rw [htasks]
          exact htask
      | cleared pids hdone htasks hstruck hreached =>
          exact haccounts.of_struck hsound.placed hstruck fun task htask =>
            .inr (hreached task htask)
      | renewed pids htasks hstruck => cases hrenews
      | altered pid exitCode hidden hregistry hprocesses =>
          refine haccounts.of_altered ?_ hregistry hprocesses
          rintro rfl
          cases hshown

theorem Session.run_accounts (start : World τ σ) {steps : List (Step τ σ)}
    (hshown : ∀ step ∈ steps, step.hides = false) :
    (Session.run setup tidy start steps).world.Accounts
      (Session.run setup tidy start steps).origin := by
  have hboth : (Session.run setup tidy start steps).Sound ∧
      (Session.run setup tidy start steps).world.Accounts
        (Session.run setup tidy start steps).origin := by
    refine List.foldlRecOn (motive := fun session : Session τ σ => session.Sound ∧
      session.world.Accounts session.origin) steps _ ?_ ?_
    · exact ⟨Session.Sound.of_empty _ rfl, World.Accounts.of_length (Session.fresh start).world⟩
    · intro session hsession step hmem
      exact ⟨hsession.1.next setup tidy step,
        Session.next_accounts setup tidy hsession.1 hsession.2 (hshown step hmem)⟩
  exact hboth.2

/-! ### The discard -/

/-- A child has its subgraph announced and a signal sent to it. -/
def World.DealsWith (world : World τ σ) (place : Nat) (child : Child) (events : List (Event τ)) :
    Prop :=
  ∃ task ∈ world.registry.tasks, task.child = place ∧ .announced task.name ∈ events ∧
    .signalled child.pid none ∈ events

theorem mem_discard_events_iff {world : World τ σ} {event : Event τ}
    (hseen : ∀ failure, event ≠ .ignored failure) :
    event ∈ (Step.discard.run setup tidy world).events ↔
      event ∈ (SubgraphLauncher.teardown setup.notifier world).events := by
  rw [discard_apply, finalize_apply, List.mem_append]
  refine or_iff_left fun hmem => ?_
  cases hresult : (SubgraphLauncher.teardown setup.notifier world).result with
  | ok _ =>
      rw [hresult] at hmem
      cases hmem
  | error failure =>
      rw [hresult, List.mem_singleton] at hmem
      exact hseen failure hmem

theorem teardown_result_of_no_ignored {world : World τ σ}
    (hnone : ∀ failure, .ignored failure ∉ (Step.discard.run setup tidy world).events) :
    (SubgraphLauncher.teardown setup.notifier world).result = .ok () := by
  cases hresult : (SubgraphLauncher.teardown setup.notifier world).result with
  | ok _ => rfl
  | error failure =>
      refine absurd ?_ (hnone failure)
      rw [discard_apply, finalize_apply, hresult]
      exact List.mem_append_right _ List.mem_cons_self

/-- In any session, a discard deals with a child that could be signalled if and only if its pass
serves a task which stands for the child. -/
theorem Session.Sound.dealsWith_iff {session : Session τ σ} (hsound : session.Sound) {place : Nat}
    {child : Child} (hchild : session.world.processes.children[place]? = some child)
    (hfault : session.world.processes.signalFault? child.pid = none) :
    session.world.DealsWith place child (Step.discard.run setup tidy session.world).events ↔
      ∃ served task lost, session.world.registry.tasks = served ++ task :: lost ∧
        task.child = place ∧ session.world.Serves setup.notifier served task := by
  constructor
  · rintro ⟨task, htask, rfl, hannounced, hsignalled⟩
    rw [mem_discard_events_iff setup tidy fun _ => by simp] at hannounced hsignalled
    rw [Processes.pid_eq_of_pidAt? (hsound.placed task htask) hchild] at hfault hsignalled
    obtain ⟨served, lost, hsplit, hserves⟩ :=
      (announced_and_signalled_iff hsound.names htask hfault).mp ⟨hannounced, hsignalled⟩
    exact ⟨served, task, lost, hsplit, rfl, hserves⟩
  · rintro ⟨served, task, lost, hsplit, rfl, hserves⟩
    have htask : task ∈ session.world.registry.tasks := by
      rw [hsplit]
      exact List.mem_append_right _ List.mem_cons_self
    have hpid := Processes.pid_eq_of_pidAt? (hsound.placed task htask) hchild
    rw [hpid] at hfault
    obtain ⟨hannounced, hsignalled⟩ :=
      (announced_and_signalled_iff hsound.names htask hfault).mpr ⟨served, lost, hsplit, hserves⟩
    refine ⟨task, htask, rfl, ?_, ?_⟩
    · exact (mem_discard_events_iff setup tidy fun _ => by simp).mpr hannounced
    · rw [hpid]
      exact (mem_discard_events_iff setup tidy fun _ => by simp).mpr hsignalled

/-- A running child that a discard does not signal goes on as it was. -/
theorem discard_child_of_not_signalled {world : World τ σ} {place : Nat} {child : Child}
    (hchild : world.processes.children[place]? = some child) (hrunning : child.exitCode = none)
    (hmissed : .signalled child.pid none ∉ (Step.discard.run setup tidy world).events) :
    (Step.discard.run setup tidy world).state.processes.children[place]? = some child := by
  rw [mem_discard_events_iff setup tidy fun _ => by simp] at hmissed
  obtain ⟨pids, hpass⟩ := teardown_passEffect setup.notifier world
  have hspared : child.pid ∉ pids := fun hmem => hmissed ((hpass.seen child.pid).mp hmem)
  obtain ⟨new, hnew, hfollows⟩ := hpass.struck.lookAtAll.exists_after hchild
  rw [discard_apply]
  change (SubgraphLauncher.teardown setup.notifier world).state.processes.lookAtAll.children[place]?
    = _
  rw [hnew, hfollows.of_running hrunning hspared]

/-- A pass that no failure ends serves every task that is listed. -/
theorem serves_of_completion {notifier : Notifier τ σ} {world : World τ σ} {served lost : List Task}
    {task : Task} (hsplit : world.registry.tasks = served ++ task :: lost)
    (hdone : (SubgraphLauncher.teardown notifier world).result = .ok ())
    (hlisted : task.pid ∈ world.processIds) : world.Serves notifier served task := by
  have hsome : world.registry.tasks ≠ [] := by
    rw [hsplit]
    simp
  obtain ⟨hreadable, hnone⟩ :=
    ((teardown_result_eq_ok_iff notifier).mp hdone).resolve_left hsome
  have hall : world.Reaches notifier world.registry.tasks :=
    ⟨hreadable, (passFailure?_eq_none_iff _ _).mp hnone⟩
  rw [hsplit] at hall
  obtain ⟨hreaches, hnotice⟩ := hall.split
  exact ⟨hreaches, hlisted, .inl hnotice⟩

/-- What a discard does for a child of its runner that runs and could be signalled, after any steps
on any host. It deals with the child if and only if its pass serves a task that stands for it, and a
child without its signal goes on running. If no step made the host hide children, there is such a
task, and its process is listed; so the child is dealt with at least where no failure is seen. -/
theorem discard_serves_iff (start : World τ σ) (steps : List (Step τ σ)) {place : Nat}
    {child : Child} (hlaunched : (Session.run setup tidy start steps).origin ≤ place)
    (hchild : (Session.run setup tidy start steps).world.processes.children[place]? = some child)
    (hrunning : child.exitCode = none)
    (hfault : (Session.run setup tidy start steps).world.processes.signalFault? child.pid = none) :
    let world := (Session.run setup tidy start steps).world
    let discard := Step.discard.run setup tidy world
    (world.DealsWith place child discard.events ↔
      ∃ served task lost, world.registry.tasks = served ++ task :: lost ∧ task.child = place ∧
        world.Serves setup.notifier served task) ∧
    (.signalled child.pid none ∉ discard.events →
      discard.state.processes.children[place]? = some child) ∧
    ((∀ step ∈ steps, step.hides = false) →
      (∃ task ∈ world.registry.tasks, task.child = place ∧ task.pid ∈ world.processIds) ∧
      ((∀ failure, .ignored failure ∉ discard.events) →
        world.DealsWith place child discard.events)) := by
  intro world discard
  have hsound := Session.run_sound setup tidy start steps
  have hiff := hsound.dealsWith_iff setup tidy hchild hfault
  refine ⟨hiff, discard_child_of_not_signalled setup tidy hchild hrunning, fun hshown => ?_⟩
  have haccounts := Session.run_accounts setup tidy start hshown
  obtain ⟨task, htask, rfl⟩ := haccounts.tracked place child hlaunched hchild hrunning hfault
  have hlisted : task.pid ∈ world.processIds := by
    rw [← Processes.pid_eq_of_pidAt? (hsound.placed task htask) hchild]
    exact World.mem_processIds_of_running (List.mem_of_getElem? hchild) hrunning
      (haccounts.shown _ child hlaunched hchild)
  refine ⟨⟨task, htask, rfl, hlisted⟩, fun hnone => hiff.mpr ?_⟩
  obtain ⟨served, lost, hsplit⟩ := List.append_of_mem htask
  have hdone := teardown_result_of_no_ignored setup tidy hnone
  exact ⟨served, task, lost, hsplit, rfl, serves_of_completion hsplit hdone hlisted⟩

end Discard

def plainSetup : RunnerSetup Rat Unit where
  notifier := Notifier.scripted []
  chooser := ⟨fun _ => pure 0⟩
  isInstalled _ := true
  timeout := some 5
  interval := some 1

/-- A host without children, which may refuse to list its processes. -/
def bareWorld (processesDenied : Bool) : World Rat Unit where
  scene := ⟨⟨0, [], false, [], processesDenied, []⟩, ()⟩
  processes := ⟨[], [], 5, [], [], "linux", true⟩
  patience := ⟨none, 0⟩
  paused := 0
  registry := Registry.empty

/-- A new runner that has launched one child. -/
def bareSession (processesDenied : Bool) : Session Rat Unit :=
  Session.run plainSetup id (bareWorld processesDenied) [.spawn "a" "srv"]

theorem discard_serves_iff_bareSession :
    (bareSession false).origin ≤ 0 ∧
      (bareSession false).world.processes.children[0]? = some ⟨5, none, false, false⟩ ∧
      (bareSession false).world.processes.signalFault? 5 = none ∧
      (bareSession false).world.DealsWith 0 ⟨5, none, false, false⟩
        (Step.discard.run plainSetup id (bareSession false).world).events := by
  have hchild : (bareSession false).world.processes.children[0]? =
      some ⟨5, none, false, false⟩ := by rfl
  have hfault : (bareSession false).world.processes.signalFault? 5 = none := by rfl
  have hserves := discard_serves_iff plainSetup id (bareWorld false) [.spawn "a" "srv"]
    (Nat.le_refl 0) hchild rfl hfault
  refine ⟨Nat.le_refl 0, hchild, hfault, (hserves.2.2 ?_).2 ?_⟩
  · intro step hmem
    rw [List.mem_singleton] at hmem
    rw [hmem]
    rfl
  · intro failure hignored
    have hevents : (Step.discard.run plainSetup id (bareSession false).world).events =
        [openingNote 1, refreshNote 1, .announced "a", .signalled 5 none, .polled 5,
          closingNote] := by rfl
    change _ ∈ (Step.discard.run plainSetup id (bareSession false).world).events at hignored
    rw [hevents] at hignored
    simp [openingNote, refreshNote, closingNote] at hignored

/-- Where the processes cannot be listed, a child that could have been signalled outlives the
discard, and nobody is told that its subgraph goes away. -/
theorem discard_misses_bareSession :
    (bareSession true).origin ≤ 0 ∧
      (bareSession true).world.processes.children[0]? = some ⟨5, none, false, false⟩ ∧
      (bareSession true).world.processes.signalFault? 5 = none ∧
      ¬ (bareSession true).world.DealsWith 0 ⟨5, none, false, false⟩
        (Step.discard.run plainSetup id (bareSession true).world).events := by
  refine ⟨Nat.le_refl 0, by rfl, by rfl, ?_⟩
  rintro ⟨task, -, -, hannounced, -⟩
  have hevents : (Step.discard.run plainSetup id (bareSession true).world).events =
      [openingNote 1, .ignored (.process .denied 0)] := by rfl
  rw [hevents] at hannounced
  simp [openingNote] at hannounced

end SubgraphLauncher
