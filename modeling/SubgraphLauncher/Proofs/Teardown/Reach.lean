import Mathlib.Data.List.Nodup
import SubgraphLauncher.Proofs.Teardown.Children
import SubgraphLauncher.Proofs.Teardown.Deeds

/-!
# Which tasks a pass gets to

A pass gets to a task if the process table can be read and no task before it ends the pass. It is
announced then, and its process is signalled as well, unless its own notice ends the pass; and even
so the signal is sent if an earlier task has the same process identifier. Where the names of the
tasks are pairwise distinct, `announced_and_signalled_iff` turns this around: the two events are
seen only there.
-/

namespace SubgraphLauncher

variable {τ σ : Type}

theorem mem_reached_noticesOf_iff {strike : Int → Strike} {notifier : Notifier τ σ}
    {notice : Notice τ σ} {scene : Scene τ σ} {tasks : List Task} :
    notice ∈ reached strike (noticesOf notifier scene tasks) ↔
      ∃ served task lost, tasks = served ++ task :: lost ∧
        (∀ earlier ∈ noticesOf notifier scene served, earlier.passFailure? strike = none) ∧
        notice = noticeOf notifier (sceneAfter scene (noticesOf notifier scene served)) task := by
  induction tasks generalizing scene with
  | nil =>
      constructor
      · intro hmem
        cases hmem
      · rintro ⟨served, task, lost, hsplit, -⟩
        cases served <;> cases hsplit
  | cons first rest ih =>
      rw [noticesOf, reached, List.mem_cons]
      constructor
      · rintro (rfl | hmem)
        · exact ⟨[], first, rest, rfl, List.forall_mem_nil _, rfl⟩
        · split at hmem
          · cases hmem
          · rename_i hpass
            obtain ⟨served, task, lost, rfl, hfree, rfl⟩ := ih.mp hmem
            refine ⟨first :: served, task, lost, rfl, ?_, rfl⟩
            rw [noticesOf, List.forall_mem_cons]
            exact ⟨Option.not_isSome_iff_eq_none.mp hpass, hfree⟩
      · rintro ⟨served, task, lost, hsplit, hfree, rfl⟩
        cases served with
        | nil =>
            cases hsplit
            exact .inl rfl
        | cons earlier served =>
            cases hsplit
            rw [noticesOf, List.forall_mem_cons] at hfree
            right
            rw [hfree.1]
            exact ih.mpr ⟨served, task, lost, rfl, hfree.2, rfl⟩

section Reach

variable [Moment τ]

/-! ### The events of one task -/

theorem deed_mem_passEvents_iff {notice : Notice τ σ} {strike : Int → Strike} {event : Event τ}
    (hdeed : event.isDeed = true) :
    event ∈ notice.passEvents strike ↔ event ∈ notice.deeds strike := by
  rw [← Notice.passEvents_filter_isDeed, List.mem_filter]
  exact (and_iff_left hdeed).symm

theorem announced_mem_passEvents_iff {notice : Notice τ σ} {strike : Int → Strike}
    {name : String} :
    (Event.announced name : Event τ) ∈ notice.passEvents strike ↔ notice.task.name = name := by
  rw [deed_mem_passEvents_iff rfl, Notice.deeds, List.mem_cons, Event.announced.injEq]
  constructor
  · rintro (hname | hsignal)
    · exact hname.symm
    · split at hsignal
      · cases hsignal
      · cases hstrike : strike notice.task.pid <;> simp [hstrike, Strike.deeds] at hsignal
  · exact fun hname => .inl hname.symm

omit [Moment τ] in
theorem signalled_mem_deeds_iff {strike : Strike} {pid other : Int} :
    (Event.signalled pid none : Event τ) ∈ strike.deeds other ↔
      other = pid ∧ strike = .delivered := by
  cases strike <;> simp [Strike.deeds, eq_comm]

theorem signalled_mem_passEvents_iff {notice : Notice τ σ} {strike : Int → Strike} {pid : Int} :
    (Event.signalled pid none : Event τ) ∈ notice.passEvents strike ↔
      notice.task.pid = pid ∧ notice.failure? = none ∧ strike pid = .delivered := by
  rw [deed_mem_passEvents_iff rfl, Notice.deeds, List.mem_cons]
  cases hfailure : notice.failure? with
  | some failure => simp
  | none =>
      simp only [reduceCtorEq, false_or, Option.isSome_none, Bool.false_eq_true, if_false,
        signalled_mem_deeds_iff, true_and]
      constructor
      · rintro ⟨rfl, hstrike⟩
        exact ⟨rfl, hstrike⟩
      · rintro ⟨rfl, hstrike⟩
        exact ⟨rfl, hstrike⟩

/-! ### The events of the pass -/

/-- A pass that begins now gets to whatever task comes right behind some others. -/
structure World.Reaches (notifier : Notifier τ σ) (world : World τ σ) (served : List Task) :
    Prop where
  readable : world.scene.network.processesDenied = false
  free : ∀ notice ∈ noticesOf notifier world.scene served, notice.passFailure? world.fate = none

/-- The notice about a task, sent in the scene that those about some others leave behind. -/
def World.noticeBehind (notifier : Notifier τ σ) (world : World τ σ) (served : List Task)
    (task : Task) : Notice τ σ :=
  noticeOf notifier (sceneAfter world.scene (noticesOf notifier world.scene served)) task

/-- A pass that begins now gets to a task and sends a signal for its process. -/
structure World.Serves (notifier : Notifier τ σ) (world : World τ σ) (served : List Task)
    (task : Task) : Prop extends world.Reaches notifier served where
  listed : task.pid ∈ world.processIds
  sent : (world.noticeBehind notifier served task).failure? = none ∨
    ∃ earlier ∈ served, earlier.pid = task.pid

variable {notifier : Notifier τ σ} {world : World τ σ}

theorem deed_mem_teardown_iff {event : Event τ} (hdeed : event.isDeed = true)
    (hpolled : ∀ pid, event ≠ .polled pid) :
    event ∈ (teardown notifier world).events ↔
      world.scene.network.processesDenied = false ∧ event ∈ world.dropEvents notifier := by
  have hopening (count : Nat) : event ≠ openingNote count := by
    rintro rfl
    cases hdeed
  have hrefresh (count : Nat) : event ≠ refreshNote count := by
    rintro rfl
    cases hdeed
  have hclosing : event ≠ closingNote := by
    rintro rfl
    cases hdeed
  by_cases hempty : world.registry.tasks = []
  · have hnothing : world.dropEvents notifier = [] := by
      rw [World.dropEvents, World.notices, hempty]
      rfl
    rw [teardown_of_empty notifier hempty, hnothing]
    exact (and_iff_right_of_imp fun hmem => absurd hmem List.not_mem_nil).symm
  cases hdenied : world.scene.network.processesDenied with
  | true => simp [teardown_of_denied notifier hempty hdenied, hopening]
  | false =>
      cases hfailure : passFailure? world.fate (world.notices notifier) with
      | some failure => simp [teardown_of_failure notifier hdenied hfailure, hopening, hrefresh]
      | none =>
          have hlooks : event ∉ world.registry.tasks.map (.polled ·.pid) := by
            rw [List.mem_map]
            rintro ⟨task, _, rfl⟩
            exact hpolled task.pid rfl
          simp only [teardown_of_completion notifier hempty hdenied hfailure, List.mem_cons,
            List.mem_append, hopening, hrefresh, hclosing, hlooks, List.not_mem_nil, false_or,
            or_false, true_and]

theorem mem_dropEvents_iff {event : Event τ} :
    event ∈ world.dropEvents notifier ↔
      ∃ served task lost, world.registry.tasks = served ++ task :: lost ∧
        (∀ notice ∈ noticesOf notifier world.scene served,
          notice.passFailure? world.fate = none) ∧
        event ∈ (world.noticeBehind notifier served task).passEvents world.fate := by
  rw [World.dropEvents, List.mem_flatMap]
  constructor
  · rintro ⟨notice, hmem, hevent⟩
    obtain ⟨served, task, lost, hsplit, hfree, rfl⟩ := mem_reached_noticesOf_iff.mp hmem
    exact ⟨served, task, lost, hsplit, hfree, hevent⟩
  · rintro ⟨served, task, lost, hsplit, hfree, hevent⟩
    exact ⟨_, mem_reached_noticesOf_iff.mpr ⟨served, task, lost, hsplit, hfree, rfl⟩, hevent⟩

theorem announced_mem_teardown_iff {name : String} :
    .announced name ∈ (teardown notifier world).events ↔
      ∃ served task lost, world.registry.tasks = served ++ task :: lost ∧
        world.Reaches notifier served ∧ task.name = name := by
  rw [deed_mem_teardown_iff rfl fun _ => by simp, mem_dropEvents_iff]
  constructor
  · rintro ⟨hreadable, served, task, lost, hsplit, hfree, hevent⟩
    exact ⟨served, task, lost, hsplit, ⟨hreadable, hfree⟩, announced_mem_passEvents_iff.mp hevent⟩
  · rintro ⟨served, task, lost, hsplit, ⟨hreadable, hfree⟩, hname⟩
    exact ⟨hreadable, served, task, lost, hsplit, hfree, announced_mem_passEvents_iff.mpr hname⟩

theorem signalled_mem_teardown_iff {pid : Int} :
    .signalled pid none ∈ (teardown notifier world).events ↔
      ∃ served task lost, world.registry.tasks = served ++ task :: lost ∧
        world.Reaches notifier served ∧ task.pid = pid ∧
        (world.noticeBehind notifier served task).failure? = none ∧
        world.fate pid = .delivered := by
  rw [deed_mem_teardown_iff rfl fun _ => by simp, mem_dropEvents_iff]
  constructor
  · rintro ⟨hreadable, served, task, lost, hsplit, hfree, hevent⟩
    exact ⟨served, task, lost, hsplit, ⟨hreadable, hfree⟩, signalled_mem_passEvents_iff.mp hevent⟩
  · rintro ⟨served, task, lost, hsplit, ⟨hreadable, hfree⟩, hsignal⟩
    exact ⟨hreadable, served, task, lost, hsplit, hfree, signalled_mem_passEvents_iff.mpr hsignal⟩

/-- What is seen of the signals that a pass delivers is what the children feel of it. -/
theorem mem_struckPids_reached_iff {pid : Int} :
    pid ∈ struckPids world.fate (reached world.fate (world.notices notifier)) ↔
      .signalled pid none ∈ world.dropEvents notifier := by
  rw [mem_struckPids, World.dropEvents, List.mem_flatMap]
  constructor
  · rintro ⟨hfate, notice, hmem, hnotice, hpid⟩
    exact ⟨notice, hmem, signalled_mem_passEvents_iff.mpr ⟨hpid, hnotice, hfate⟩⟩
  · rintro ⟨notice, hmem, hevent⟩
    obtain ⟨hpid, hnotice, hfate⟩ := signalled_mem_passEvents_iff.mp hevent
    exact ⟨hfate, notice, hmem, hnotice, hpid⟩

/-- A pass that gets beyond a task got to it, and the notice about the task did not end it. -/
theorem World.Reaches.split {front back : List Task} {task : Task}
    (hreaches : world.Reaches notifier (front ++ task :: back)) :
    world.Reaches notifier front ∧ (world.noticeBehind notifier front task).failure? = none := by
  have hfree := hreaches.free
  rw [noticesOf_append, noticesOf] at hfree
  have hpass : (world.noticeBehind notifier front task).passFailure? world.fate = none :=
    hfree _ (List.mem_append_right _ List.mem_cons_self)
  refine ⟨⟨hreaches.readable, fun notice hmem => hfree notice (List.mem_append_left _ hmem)⟩, ?_⟩
  exact ((Notice.passFailure?_eq_none_iff _ _).mp hpass).1

/-- The two events that belong to a task whose signal the host would not refuse are both seen if and
only if the pass serves the task. -/
theorem announced_and_signalled_iff (hnames : (world.registry.tasks.map (·.name)).Nodup)
    {task : Task} (htask : task ∈ world.registry.tasks)
    (hfault : world.processes.signalFault? task.pid = none) :
    (.announced task.name ∈ (teardown notifier world).events ∧
      .signalled task.pid none ∈ (teardown notifier world).events) ↔
      ∃ served lost, world.registry.tasks = served ++ task :: lost ∧
        world.Serves notifier served task := by
  rw [announced_mem_teardown_iff, signalled_mem_teardown_iff]
  constructor
  · rintro ⟨⟨served, named, lost, hsplit, hreaches, hname⟩,
      before, sent, behind, hsplit', hreaches', hpid, hnotice, hfate⟩
    have hnamed : named = task := by
      have hmem : named ∈ world.registry.tasks := by
        rw [hsplit]
        exact List.mem_append_right _ List.mem_cons_self
      exact List.inj_on_of_nodup_map hnames hmem htask hname
    subst hnamed
    refine ⟨served, lost, hsplit, hreaches, ((World.fate_eq_delivered_iff world _).mp hfate).1, ?_⟩
    -- The signal was sent for the task itself, for one before it, or for one behind it; in the last
    -- case the pass went on beyond the task, so its notice did not end it.
    rw [hsplit, List.append_eq_append_iff] at hsplit'
    rcases hsplit' with ⟨between, rfl, hrest⟩ | ⟨between, rfl, hrest⟩
    · left
      cases between with
      | nil =>
          cases hrest
          rw [List.append_nil] at hnotice
          exact hnotice
      | cons next between =>
          cases hrest
          exact hreaches'.split.2
    · cases between with
      | nil =>
          cases hrest
          rw [List.append_nil]
          exact .inl hnotice
      | cons next between =>
          cases hrest
          exact .inr ⟨sent, List.mem_append_right _ List.mem_cons_self, hpid⟩
  · rintro ⟨served, lost, hsplit, hserves⟩
    have hdelivered : world.fate task.pid = .delivered :=
      (World.fate_eq_delivered_iff world _).mpr ⟨hserves.listed, hfault⟩
    refine ⟨⟨served, task, lost, hsplit, hserves.toReaches, rfl⟩, ?_⟩
    rcases hserves.sent with hnotice | ⟨earlier, hearlier, hpid⟩
    · exact ⟨served, task, lost, hsplit, hserves.toReaches, rfl, hnotice, hdelivered⟩
    · obtain ⟨front, back, rfl⟩ := List.append_of_mem hearlier
      obtain ⟨hreaches, hnotice⟩ := hserves.toReaches.split
      refine ⟨front, earlier, back ++ task :: lost, ?_, hreaches, hpid, hnotice, hdelivered⟩
      rw [hsplit, List.append_assoc, List.cons_append]

end Reach

end SubgraphLauncher
