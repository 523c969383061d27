import SubgraphLauncher.Proofs.Session.Announcements
import SubgraphLauncher.Proofs.Teardown.Completed

/-!
# On whose behalf a signal is sent

A pass announces a task and then signals its process, so a signal belongs to the subgraph that was
announced last. The runner knows a process by its identifier alone, and it looks the identifier up
in a table that host processes and children share. A signal is therefore no proof that the task's
own child was running: the child may have ended and still linger in the table, because nobody has
read its exit code, or another process may have been given its identifier. `signals_reach_holders`
says that nothing else can be hit: where the own child had ended and did not linger, some other
process had its identifier when the pass read the table.
-/

namespace SubgraphLauncher

variable {τ σ : Type}

/-- The signals among some events, by the name that was announced last and by identifier. -/
def signalsAfter : Option String → List (Event τ) → List (Option String × Int)
  | _, [] => []
  | _, .announced name :: rest => signalsAfter (some name) rest
  | name?, .signalled pid _ :: rest => (name?, pid) :: signalsAfter name? rest
  | name?, _ :: rest => signalsAfter name? rest

theorem signalsAfter_filter_isDeed (name? : Option String) (events : List (Event τ)) :
    signalsAfter name? (events.filter Event.isDeed) = signalsAfter name? events := by
  induction events generalizing name? with
  | nil => rfl
  | cons event rest ih =>
      cases event with
      | announced name => exact ih (some name)
      | signalled pid fault? => exact congrArg ((name?, pid) :: ·) (ih name?)
      | _ => exact ih name?

theorem signalsAfter_polled (name? : Option String) (tasks : List Task) :
    signalsAfter name? (tasks.map fun task => (.polled task.pid : Event τ)) = [] := by
  induction tasks with
  | nil => rfl
  | cons task rest ih => exact ih

/-- Whatever is signalled is among the signals, under some name. -/
theorem exists_mem_signalsAfter {pid : Int} {fault? : Option ProcessFault} {events : List (Event τ)}
    (hsignalled : .signalled pid fault? ∈ events) (name? : Option String) :
    ∃ behalf?, (behalf?, pid) ∈ signalsAfter name? events := by
  induction events generalizing name? with
  | nil => cases hsignalled
  | cons event rest ih =>
      rcases List.mem_cons.mp hsignalled with rfl | hrest
      · exact ⟨name?, List.mem_cons_self⟩
      · cases event with
        | announced name => exact ih hrest (some name)
        | signalled other fault? =>
            obtain ⟨behalf?, hmem⟩ := ih hrest name?
            exact ⟨behalf?, List.mem_cons_of_mem _ hmem⟩
        | _ => exact ih hrest name?

/-! ### The signals of a pass -/

/-- The signal of a pass for a task: none if the notice about it ends the pass, and none if the
process table lacks its process. -/
def Notice.signal? (strike : Int → Strike) (notice : Notice τ σ) : Option (Option String × Int) :=
  if notice.failure?.isNone ∧ strike notice.task.pid ≠ .absent then
    some (some notice.task.name, notice.task.pid)
  else none

theorem signalsAfter_deeds (strike : Int → Strike) (notice : Notice τ σ) (name? : Option String)
    (events : List (Event τ)) :
    signalsAfter name? (notice.deeds strike ++ events) =
      (notice.signal? strike).toList ++ signalsAfter (some notice.task.name) events := by
  unfold Notice.deeds Notice.signal?
  cases notice.failure? with
  | some failure => rfl
  | none => cases strike notice.task.pid <;> rfl

/-- Each task is announced before it is signalled, so no signal is taken for that of another. -/
theorem signalsAfter_flatMap_deeds (strike : Int → Strike) (notices : List (Notice τ σ))
    (name? : Option String) (tasks : List Task) :
    signalsAfter name? (notices.flatMap (·.deeds strike) ++ tasks.map (.polled ·.pid)) =
      notices.filterMap (·.signal? strike) := by
  induction notices generalizing name? with
  | nil => exact signalsAfter_polled name? tasks
  | cons notice rest ih =>
      rw [List.flatMap_cons, List.append_assoc, signalsAfter_deeds, ih, List.filterMap_cons]
      cases notice.signal? strike <;> rfl

section Pass

variable [Moment τ]

theorem World.dropEvents_filter_isDeed (notifier : Notifier τ σ) (world : World τ σ) :
    (world.dropEvents notifier).filter Event.isDeed =
      (reached world.fate (world.notices notifier)).flatMap (·.deeds world.fate) := by
  rw [dropEvents, List.filter_flatMap]
  simp only [Notice.passEvents_filter_isDeed]

theorem teardown_signals (notifier : Notifier τ σ) (world : World τ σ) :
    signalsAfter none (teardown notifier world).events =
      if world.scene.network.processesDenied then []
      else (reached world.fate (world.notices notifier)).filterMap (·.signal? world.fate) := by
  rw [← signalsAfter_filter_isDeed]
  by_cases hempty : world.registry.tasks = []
  · rw [teardown_of_empty notifier hempty, World.notices, hempty]
    exact (ite_self _).symm
  cases hdenied : world.scene.network.processesDenied with
  | true =>
      rw [teardown_of_denied notifier hempty hdenied]
      rfl
  | false =>
      have hopening (count : Nat) : (openingNote count : Event τ).isDeed = false := rfl
      have hrefresh (count : Nat) : (refreshNote count : Event τ).isDeed = false := rfl
      have hclosing : (closingNote : Event τ).isDeed = false := rfl
      rw [if_neg Bool.false_ne_true]
      cases hfailure : passFailure? world.fate (world.notices notifier) with
      | some failure =>
          rw [teardown_of_failure notifier hdenied hfailure]
          simp only [List.filter_cons, hopening, hrefresh, World.dropEvents_filter_isDeed]
          rw [← signalsAfter_flatMap_deeds world.fate _ none []]
          exact congrArg (signalsAfter none) (List.append_nil _).symm
      | none =>
          rw [teardown_of_completion notifier hempty hdenied hfailure]
          simp only [List.filter_cons, List.filter_append, hopening, hrefresh, hclosing,
            World.dropEvents_filter_isDeed, filter_isDeed_polled]
          rw [← signalsAfter_flatMap_deeds world.fate _ none world.registry.tasks]
          exact congrArg (signalsAfter none) (List.append_nil _)

/-- A pass signals on behalf of its tasks, and only processes of the table. -/
theorem exists_task_of_mem_teardown_signals {notifier : Notifier τ σ} {world : World τ σ}
    {behalf? : Option String} {pid : Int}
    (hsignal : (behalf?, pid) ∈ signalsAfter none (teardown notifier world).events) :
    ∃ task ∈ world.registry.tasks, behalf? = some task.name ∧ pid = task.pid ∧
      task.pid ∈ world.processIds := by
  rw [teardown_signals] at hsignal
  split at hsignal
  · cases hsignal
  · obtain ⟨notice, hreached, hnotice⟩ := List.mem_filterMap.mp hsignal
    unfold Notice.signal? at hnotice
    split at hnotice
    · rename_i hsent
      obtain ⟨rfl, rfl⟩ := Prod.mk.inj (Option.some.inj hnotice).symm
      have htask : notice.task ∈ world.registry.tasks := by
        rw [← noticesOf_map_task notifier world.scene world.registry.tasks]
        exact List.mem_map_of_mem ((reached_front _ _).subset hreached)
      have hlisted : notice.task.pid ∈ world.processIds := by
        by_contra hlacking
        exact hsent.2 ((World.fate_eq_absent_iff world _).mpr hlacking)
      exact ⟨notice.task, htask, rfl, rfl, hlisted⟩
    · cases hnotice

/-! ### Who has an identifier -/

/-- Some process other than the child at a place has an identifier: one of the host's own that is
there now, or a child at another place that the host lists. -/
def World.HeldElsewhere (world : World τ σ) (place : Nat) (pid : Int) : Prop :=
  (∃ process ∈ world.scene.network.running, process.pid = pid) ∨
    ∃ other child, other ≠ place ∧ world.processes.children[other]? = some child ∧
      child.pid = pid ∧ world.processes.isListed child = true

/-- A child that has ended is still among the processes of its host, until its exit code is read. -/
def World.Lingers (world : World τ σ) (child : Child) : Prop :=
  world.processes.lingering = true ∧ child.exitCode ≠ none ∧ child.reaped = false

/-- An identifier of the table is that of a process of the host or of a listed child. -/
theorem World.held_of_mem_processIds {world : World τ σ} {pid : Int}
    (hlisted : pid ∈ world.processIds) {place : Nat} {child : Child}
    (hchild : world.processes.children[place]? = some child) :
    child.exitCode = none ∨ world.Lingers child ∨ world.HeldElsewhere place pid := by
  rw [processIds, List.mem_eraseDups, List.mem_append, List.mem_map] at hlisted
  rcases hlisted with hhost | hlisted
  · exact .inr (.inr (.inl hhost))
  · rw [Processes.listedPids, List.mem_map] at hlisted
    obtain ⟨holder, hholder, rfl⟩ := hlisted
    obtain ⟨hmem, hshown⟩ := List.mem_filter.mp hholder
    obtain ⟨other, hother⟩ := List.mem_iff_getElem?.mp hmem
    by_cases hsame : other = place
    · rw [hsame, hchild] at hother
      rw [Option.some.inj hother]
      by_cases hrunning : holder.exitCode = none
      · exact .inl hrunning
      · simp only [Processes.isListed, Bool.and_eq_true, Bool.or_eq_true, Bool.not_eq_true',
          Option.isNone_iff_eq_none, hrunning, false_or] at hshown
        exact .inr (.inl ⟨hshown.2.1, hrunning, hshown.2.2⟩)
    · exact .inr (.inr (.inr ⟨other, holder, hsame, hother, rfl, hshown⟩))

/-! ### Every way into a teardown -/

theorem Ending.run_filter_isDeed (notifier : Notifier τ σ) (ending : Ending τ)
    (world : World τ σ) :
    (ending.run notifier world).events.filter Event.isDeed =
      (teardown notifier world).events.filter Event.isDeed := by
  cases ending with
  | asked => rfl
  | left failure? => rw [run, leave_events]
  | dropped =>
      rw [run, finalize_apply]
      dsimp only
      rw [List.filter_append]
      cases (teardown notifier world).result <;> exact List.append_nil _

theorem Ending.run_book (notifier : Notifier τ σ) (ending : Ending τ) (world : World τ σ) :
    (ending.run notifier world).state.book = (teardown notifier world).state.book := by
  cases ending with
  | asked => rfl
  | left failure? => exact leave_book notifier failure? world
  | dropped => rw [run, finalize_apply]

/-- In any session, on any host and on each way into a teardown, a signal is sent on behalf of a
task whose own child had not ended when the pass began and read the process table, or lingered in
it, or whose identifier another process had at that time. A child that has the identifier of no
signal goes on as it was, unless its exit code is read. -/
theorem signals_reach_holders (setup : RunnerSetup τ σ) (tidy : σ → σ) (start : World τ σ)
    (steps : List (Step τ σ)) (ending : Ending τ) :
    let world := (Session.run setup tidy start steps).world
    let pass := ending.run setup.notifier world
    let signals := signalsAfter none pass.events
    (∀ signal ∈ signals, ∃ task ∈ world.registry.tasks, signal = (some task.name, task.pid) ∧
      ∃ child, world.processes.children[task.child]? = some child ∧ child.pid = task.pid ∧
        (child.exitCode = none ∨ world.Lingers child ∨
          world.HeldElsewhere task.child task.pid)) ∧
    ∀ (place : Nat) (child : Child), world.processes.children[place]? = some child →
      (∀ signal ∈ signals, signal.2 ≠ child.pid) →
      pass.state.processes.children[place]? = some child ∨
        pass.state.processes.children[place]? = some child.seen := by
  intro world pass signals
  have hsignals : signals = signalsAfter none (teardown setup.notifier world).events := by
    change signalsAfter none (ending.run setup.notifier world).events = _
    rw [← signalsAfter_filter_isDeed, Ending.run_filter_isDeed, signalsAfter_filter_isDeed]
  constructor
  · rintro ⟨behalf?, pid⟩ hsignal
    rw [hsignals] at hsignal
    obtain ⟨task, htask, rfl, rfl, hlisted⟩ := exists_task_of_mem_teardown_signals hsignal
    have hplaced := (Session.run_sound setup tidy start steps).placed task htask
    obtain ⟨child, hchild, hpid⟩ := Option.map_eq_some_iff.mp hplaced
    exact ⟨task, htask, rfl, child, hchild, hpid, World.held_of_mem_processIds hlisted hchild⟩
  · intro place child hchild hmissed
    obtain ⟨pids, hpass⟩ := teardown_passEffect setup.notifier world
    have hspared : child.pid ∉ pids := by
      intro hmem
      obtain ⟨behalf?, hsignal⟩ := exists_mem_signalsAfter ((hpass.seen child.pid).mp hmem) none
      rw [← hsignals] at hsignal
      exact hmissed _ hsignal rfl
    have hprocesses : pass.state.processes = (teardown setup.notifier world).state.processes :=
      congrArg Prod.snd (Ending.run_book setup.notifier ending world)
    obtain ⟨new, hnew, hfollows⟩ := hpass.struck.exists_after hchild
    rw [hprocesses, hnew, Option.some.injEq, Option.some.injEq]
    exact hfollows.of_missed hspared

end Pass

/-- A host that gives the identifier 5 twice, and on which a process of its own has the identifier 6
from the first moment after 0 on. -/
def crowdedWorld : World Rat Unit where
  scene := ⟨⟨0, [], false, [⟨6, [], none, some 1, none⟩], false, []⟩, ()⟩
  processes := ⟨[], [5, 5, 6], 7, [], [], "linux", true⟩
  patience := ⟨none, 0⟩
  paused := 0
  registry := Registry.empty

/-- The first child ends, and its exit code is read, before the second one is given its identifier,
and the third one before a process of the host has its own. -/
def crowdedSession : Session Rat Unit :=
  Session.run plainSetup id crowdedWorld
    [.spawn "a" "srv", .alter 5 (some 0) none, .poll "a", .spawn "b" "srv", .spawn "c" "srv",
      .alter 6 (some 0) none, .poll "c", .pass 1]

/-- Signals are sent on behalf of two children that have ended and do not linger: one ends the child
of another task, and one is sent to a process of the host. -/
theorem signals_behind_ended_crowdedSession :
    crowdedSession.world.registry.tasks = [⟨"a", 5, 0⟩, ⟨"b", 5, 1⟩, ⟨"c", 6, 2⟩] ∧
      crowdedSession.world.processes.children =
        [⟨5, some 0, false, true⟩, ⟨5, none, false, false⟩, ⟨6, some 0, false, true⟩] ∧
      crowdedSession.world.scene.network.running.map (·.pid) = [6] ∧
      signalsAfter none
          (Ending.asked.run plainSetup.notifier crowdedSession.world).events =
        [(some "a", 5), (some "b", 5), (some "c", 6)] ∧
      ¬ ∀ signal ∈ signalsAfter none
          (Ending.asked.run plainSetup.notifier crowdedSession.world).events,
        ∃ task ∈ crowdedSession.world.registry.tasks, signal = (some task.name, task.pid) ∧
          ∃ child, crowdedSession.world.processes.children[task.child]? = some child ∧
            child.exitCode = none := by
  have htasks : crowdedSession.world.registry.tasks =
      [⟨"a", 5, 0⟩, ⟨"b", 5, 1⟩, ⟨"c", 6, 2⟩] := by rfl
  have hchildren : crowdedSession.world.processes.children =
      [⟨5, some 0, false, true⟩, ⟨5, none, false, false⟩, ⟨6, some 0, false, true⟩] := by rfl
  have hsignals : signalsAfter none
      (Ending.asked.run plainSetup.notifier crowdedSession.world).events =
        [(some "a", 5), (some "b", 5), (some "c", 6)] := by decide +kernel
  refine ⟨htasks, hchildren, by decide +kernel, hsignals, fun hown => ?_⟩
  rw [hsignals] at hown
  obtain ⟨task, htask, hsignal, child, hchild, hrunning⟩ := hown _ List.mem_cons_self
  rw [htasks] at htask
  rw [hchildren] at hchild
  -- Only the first task has the name of the first signal, and its own child has ended.
  obtain rfl : task = ⟨"a", 5, 0⟩ := by
    simp only [List.mem_cons, List.not_mem_nil, or_false] at htask
    rcases htask with rfl | rfl | rfl
    · rfl
    · exact absurd hsignal (by decide)
    · exact absurd hsignal (by decide)
  cases hchild
  cases hrunning

end SubgraphLauncher
