import SubgraphLauncher.Proofs.Teardown.Completed

/-!
# How far failures of single tasks are contained

A notice that fails in an ordinary way, and a signal that the host refuses because of the process,
are warned about and the pass goes on. One refusal is not taken for an answer: the fault
`notPermitted`, which is no fault of the process. `teardown_contained_iff` says that it is the only
one which does harm, and that the harm is complete: the tasks behind it are neither announced nor
signalled, nobody looks at any child, and the registry stays as it was.
-/

namespace SubgraphLauncher

variable {τ σ : Type}

/-- A notifier whose failures are all such that handlers for ordinary failures take them. -/
def Notifier.IsOrdinary (notifier : Notifier τ σ) : Prop :=
  ∀ name scene failure, (notifier.announce name scene).result = .error failure →
    failure.isOrdinary = true

theorem Notifier.IsOrdinary.failure?_eq_none {notifier : Notifier τ σ}
    (hordinary : notifier.IsOrdinary) {scene : Scene τ σ} {tasks : List Task}
    {notice : Notice τ σ} (hmem : notice ∈ noticesOf notifier scene tasks) :
    notice.failure? = none := by
  obtain ⟨there, hnotice⟩ := exists_scene_of_mem_noticesOf hmem
  rw [Notice.failure?_eq_none_iff]
  intro failure hresult
  rw [hnotice] at hresult
  exact hordinary _ _ _ hresult

section Contained

variable [Moment τ]

/-- The host has the process of a task and refuses its signal with a fault that is not of the
process. -/
def World.bars (world : World τ σ) (task : Task) : Prop :=
  task.pid ∈ world.processIds ∧ world.processes.signalFault? task.pid = some .notPermitted

/-- No failure comes out of a pass, it deals with every task and empties the registry. -/
structure Contained (before : World τ σ)
    (pass : Outcome (Event τ) (World τ σ) (Failure τ) Unit) : Prop where
  result : pass.result = .ok ()
  deeds : pass.events.filter Event.isDeed =
    before.dropDeeds before.registry.tasks ++ before.registry.tasks.map (.polled ·.pid)
  registry : pass.state.registry.tasks = []

/-- A pass that came to grief at a task: all before it are dealt with, and nothing is done about
those behind it. -/
structure CutShort (before : World τ σ) (served : List Task) (task : Task)
    (pass : Outcome (Event τ) (World τ σ) (Failure τ) Unit) : Prop where
  result : pass.result = .error (.process .notPermitted task.pid)
  deeds : pass.events.filter Event.isDeed = before.dropDeeds (served ++ [task])
  registry : pass.state.registry.tasks = before.registry.tasks

variable {notifier : Notifier τ σ} {world : World τ σ}

theorem passFailure?_noticesOf_eq_none_iff (hordinary : notifier.IsOrdinary) (scene : Scene τ σ)
    (tasks : List Task) :
    passFailure? world.fate (noticesOf notifier scene tasks) = none ↔
      ∀ task ∈ tasks, ¬ world.bars task := by
  rw [passFailure?_eq_none_iff]
  constructor
  · intro hnone task htask hbars
    rw [← noticesOf_map_task notifier scene tasks, List.mem_map] at htask
    obtain ⟨notice, hmem, rfl⟩ := htask
    refine ((Notice.passFailure?_eq_none_iff _ _).mp (hnone notice hmem)).2 ?_
    exact (World.fate_eq_refused_iff world _ _).mpr hbars
  · intro hfree notice hmem
    refine (Notice.passFailure?_eq_none_iff _ _).mpr ⟨hordinary.failure?_eq_none hmem, ?_⟩
    intro hrefused
    refine hfree notice.task ?_ ((World.fate_eq_refused_iff world _ _).mp hrefused)
    rw [← noticesOf_map_task notifier scene tasks]
    exact List.mem_map_of_mem hmem

theorem contained_of_free (hreadable : world.scene.network.processesDenied = false)
    (hordinary : notifier.IsOrdinary) (hfree : ∀ task ∈ world.registry.tasks, ¬ world.bars task) :
    Contained world (teardown notifier world) := by
  by_cases hempty : world.registry.tasks = []
  · rw [teardown_of_empty notifier hempty]
    exact ⟨rfl, by rw [hempty]; rfl, hempty⟩
  · have hnone : passFailure? world.fate (world.notices notifier) = none :=
      (passFailure?_noticesOf_eq_none_iff hordinary _ _).mpr hfree
    have hdone : (teardown notifier world).result = .ok () :=
      (teardown_result_eq_ok_iff notifier).mpr (.inr ⟨hreadable, hnone⟩)
    have hpass := teardown_completedPass hempty hdone
    exact ⟨hdone, hpass.deeds, congrArg Registry.tasks hpass.registry⟩

theorem cutShort_of_bars (hreadable : world.scene.network.processesDenied = false)
    (hordinary : notifier.IsOrdinary) {served lost : List Task} {task : Task}
    (htasks : world.registry.tasks = served ++ task :: lost)
    (hserved : ∀ earlier ∈ served, ¬ world.bars earlier) (hbars : world.bars task) :
    CutShort world served task (teardown notifier world) := by
  let later := sceneAfter world.scene (noticesOf notifier world.scene served)
  have hfront : passFailure? world.fate (noticesOf notifier world.scene served) = none :=
    (passFailure?_noticesOf_eq_none_iff hordinary _ _).mpr hserved
  have hpassing (notice : Notice τ σ)
      (hmem : notice ∈ noticesOf notifier world.scene served ++ [noticeOf notifier later task]) :
      notice.failure? = none := by
    rcases List.mem_append.mp hmem with hmem | hmem
    · exact hordinary.failure?_eq_none hmem
    · have hlast : notice ∈ noticesOf notifier later [task] := hmem
      exact hordinary.failure?_eq_none hlast
  have hstop : (noticeOf notifier later task).passFailure? world.fate =
      some (.process .notPermitted task.pid) := by
    have hstrike : world.fate task.pid = .refused .notPermitted :=
      (World.fate_eq_refused_iff world _ _).mpr hbars
    rw [Notice.passFailure?, hpassing _ (List.mem_append_right _ List.mem_cons_self),
      Option.none_or]
    exact congrArg (Strike.failure? task.pid) hstrike
  have hnotices : world.notices notifier = noticesOf notifier world.scene served ++
      noticeOf notifier later task ::
        noticesOf notifier (noticeOf notifier later task).outcome.state lost := by
    rw [World.notices, htasks, noticesOf_append, noticesOf]
  have hfailure : passFailure? world.fate (world.notices notifier) =
      some (.process .notPermitted task.pid) := by
    rw [hnotices]
    exact passFailure?_append_cons hfront hstop
  rw [teardown_of_failure notifier hreadable hfailure]
  refine ⟨rfl, ?_, rfl⟩
  have hdeeds : (world.dropEvents notifier).filter Event.isDeed =
      world.dropDeeds (served ++ [task]) := by
    rw [World.dropEvents, hnotices, reached_append_cons hfront hstop,
      World.passEvents_deeds hpassing, List.map_append, noticesOf_map_task]
    rfl
  exact hdeeds

/-- Where the process table can be read and notices fail in ordinary ways only, every task is dealt
with and nothing comes out of the pass, unless the host refuses the signal of a task with a fault
that is not of the process. The first such task cuts the pass short. -/
theorem teardown_contained_iff (notifier : Notifier τ σ) (world : World τ σ)
    (hreadable : world.scene.network.processesDenied = false) (hordinary : notifier.IsOrdinary) :
    (Contained world (teardown notifier world) ↔
      ∀ task ∈ world.registry.tasks, ¬ world.bars task) ∧
    ∀ served task lost, world.registry.tasks = served ++ task :: lost →
      (∀ earlier ∈ served, ¬ world.bars earlier) → world.bars task →
      CutShort world served task (teardown notifier world) := by
  refine ⟨⟨fun hcontained => ?_, contained_of_free hreadable hordinary⟩,
    fun served task lost htasks hserved hbars =>
      cutShort_of_bars hreadable hordinary htasks hserved hbars⟩
  intro task htask
  have hnone : passFailure? world.fate (world.notices notifier) = none :=
    (((teardown_result_eq_ok_iff notifier).mp hcontained.result).resolve_left
      (List.ne_nil_of_mem htask)).2
  exact (passFailure?_noticesOf_eq_none_iff hordinary _ _).mp hnone task htask

end Contained

/-- A host that refuses to signal the first of two running children as a matter of principle. -/
def guardedWorld : World Rat Unit where
  scene := ⟨⟨0, [], false, [], false, []⟩, ()⟩
  processes := ⟨[⟨5, none, false, false⟩, ⟨6, none, false, false⟩], [], 7, [],
    [(5, .notPermitted)], "linux", true⟩
  patience := ⟨none, 0⟩
  paused := 0
  registry := ⟨[⟨"a", 5, 0⟩, ⟨"b", 6, 1⟩], []⟩

theorem Notifier.scripted_nil_isOrdinary :
    (Notifier.scripted [] : Notifier τ σ).IsOrdinary := by
  intro name scene failure hfailed
  cases hfailed

theorem teardown_contained_iff_guardedWorld :
    guardedWorld.scene.network.processesDenied = false ∧
      (Notifier.scripted [] : Notifier Rat Unit).IsOrdinary ∧
      CutShort guardedWorld [] ⟨"a", 5, 0⟩ (teardown (Notifier.scripted []) guardedWorld) := by
  have hbars : guardedWorld.bars ⟨"a", 5, 0⟩ := ⟨by decide, by decide⟩
  refine ⟨rfl, Notifier.scripted_nil_isOrdinary, ?_⟩
  refine (teardown_contained_iff (Notifier.scripted []) guardedWorld rfl
    Notifier.scripted_nil_isOrdinary).2 [] ⟨"a", 5, 0⟩ [⟨"b", 6, 1⟩] rfl ?_ hbars
  intro earlier hmem
  cases hmem

/-- The second child runs and could be signalled, but the failure at the first one comes out. -/
theorem not_contained_guardedWorld :
    guardedWorld.scene.network.processesDenied = false ∧
      (Notifier.scripted [] : Notifier Rat Unit).IsOrdinary ∧
      ¬ Contained guardedWorld (teardown (Notifier.scripted []) guardedWorld) := by
  refine ⟨rfl, Notifier.scripted_nil_isOrdinary, ?_⟩
  intro hcontained
  have hresult := hcontained.result
  cases hresult

end SubgraphLauncher
