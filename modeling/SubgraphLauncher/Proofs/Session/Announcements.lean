import SubgraphLauncher.Proofs.Discovery.Events
import SubgraphLauncher.Proofs.Session.Discard

/-!
# How often a removal is announced

A pass announces the tasks of the registry one after another and forgets them at its very end. One
that a failure cuts short forgets none, so the next one begins from the front again and announces
what was announced before. `removals_repeat_only_cutShort` says that nothing else is repeated: each
pass announces a task at most once, and what a pass that was not cut short has announced is never
announced again, in any session.

A name can be used again once its task is forgotten, so tasks are told apart by the place of their
child among the children of the host.
-/

namespace SubgraphLauncher

open SubgraphLauncher.Action RunnerAction

variable {τ σ : Type}

/-- The name whose removal an event announces. -/
def Event.announced? : Event τ → Option String
  | .announced name => some name
  | _ => none

/-- An event that announces nothing. -/
def Event.IsQuiet (event : Event τ) : Prop := event.announced? = none

/-- Whether a step makes a pass, on whichever of the three ways. -/
def Step.isPass : Step τ σ → Bool
  | .teardown | .leave _ | .discard => true
  | _ => false

/-- What a step does about removals: the names that it announces, the tasks that have them, and
whether it makes a pass that a failure ends. -/
structure Removal where
  names : List String
  tasks : List Task
  cutShort : Bool

section Definitions

variable [Moment τ]

def Step.removal (setup : RunnerSetup τ σ) (tidy : σ → σ) (world : World τ σ) (step : Step τ σ) :
    Removal :=
  let names := (step.run setup tidy world).events.filterMap Event.announced?
  ⟨names, names.filterMap world.registry.task?,
    step.isPass && !(SubgraphLauncher.teardown setup.notifier world).result.isOk⟩

/-- What the steps of a session do about removals, one after another. -/
def Session.removals (setup : RunnerSetup τ σ) (tidy : σ → σ) (session : Session τ σ) :
    List (Step τ σ) → List Removal
  | [] => []
  | step :: rest =>
    step.removal setup tidy session.world ::
      Session.removals setup tidy (session.next setup tidy step) rest

end Definitions

/-! ### What a pass announces -/

/-- Among distinct names, a name leads to its task. -/
theorem Registry.task?_name {registry : Registry} (hnames : (registry.tasks.map (·.name)).Nodup)
    {task : Task} (htask : task ∈ registry.tasks) : registry.task? task.name = some task := by
  have hsome : (registry.task? task.name).isSome := by
    rw [task?, List.find?_isSome]
    exact ⟨task, htask, beq_self_eq_true _⟩
  obtain ⟨other, hother⟩ := Option.isSome_iff_exists.mp hsome
  have hname : other.name = task.name := by
    have hfound := List.find?_some hother
    exact beq_iff_eq.mp hfound
  rw [hother, List.inj_on_of_nodup_map hnames (List.mem_of_find?_eq_some hother) htask hname]

theorem Registry.filterMap_task?_names {registry : Registry}
    (hnames : (registry.tasks.map (·.name)).Nodup) {tasks : List Task}
    (htasks : ∀ task ∈ tasks, task ∈ registry.tasks) :
    (tasks.map (·.name)).filterMap registry.task? = tasks := by
  rw [List.filterMap_map]
  calc tasks.filterMap (registry.task? ∘ (·.name))
      = tasks.filterMap some :=
        List.filterMap_congr fun task htask => registry.task?_name hnames (htasks task htask)
    _ = tasks := List.filterMap_some

theorem filterMap_announced?_eq_nil {events : List (Event τ)}
    (hnone : ∀ event ∈ events, event.IsQuiet) :
    events.filterMap Event.announced? = [] :=
  List.filterMap_eq_nil_iff.mpr hnone

/-- Announcements are deeds, so they can be read off the deeds. -/
theorem filterMap_announced?_filter_isDeed (events : List (Event τ)) :
    (events.filter Event.isDeed).filterMap Event.announced? =
      events.filterMap Event.announced? := by
  rw [List.filterMap_filter]
  refine List.filterMap_congr fun event _ => ?_
  cases event <;> rfl

theorem reached_front (strike : Int → Strike) (notices : List (Notice τ σ)) :
    reached strike notices <+: notices := by
  induction notices with
  | nil => exact List.prefix_rfl
  | cons notice rest ih =>
      rw [reached, List.prefix_cons_inj]
      split
      · exact List.nil_prefix
      · exact ih

section Pass

variable [Moment τ]

theorem Notice.passEvents_announced? (notice : Notice τ σ) (strike : Int → Strike) :
    (notice.passEvents strike).filterMap Event.announced? = [notice.task.name] := by
  have hname : (Event.announced notice.task.name : Event τ).announced? =
      some notice.task.name := rfl
  rw [← filterMap_announced?_filter_isDeed, Notice.passEvents_filter_isDeed, Notice.deeds,
    List.filterMap_cons_some hname]
  split
  · rfl
  · cases strike notice.task.pid <;> rfl

theorem World.dropEvents_announced? (notifier : Notifier τ σ) (world : World τ σ) :
    (world.dropEvents notifier).filterMap Event.announced? =
      ((reached world.fate (world.notices notifier)).map (·.task)).map (·.name) := by
  rw [dropEvents, List.filterMap_flatMap, List.map_map]
  simp only [Notice.passEvents_announced?]
  exact List.map_eq_flatMap.symm

/-- A pass announces tasks of the registry from the front, up to where it gets. -/
theorem teardown_announced? (notifier : Notifier τ σ) (world : World τ σ) :
    ∃ tasks, tasks <+: world.registry.tasks ∧
      (teardown notifier world).events.filterMap Event.announced? = tasks.map (·.name) := by
  have hreached : (reached world.fate (world.notices notifier)).map (·.task) <+:
      world.registry.tasks := by
    have hfront := (reached_front world.fate (world.notices notifier)).map (·.task)
    rw [World.notices, noticesOf_map_task] at hfront
    exact hfront
  by_cases hempty : world.registry.tasks = []
  · exact ⟨[], List.nil_prefix, by rw [teardown_of_empty notifier hempty]; rfl⟩
  cases hdenied : world.scene.network.processesDenied with
  | true => exact ⟨[], List.nil_prefix, by rw [teardown_of_denied notifier hempty hdenied]; rfl⟩
  | false =>
      refine ⟨_, hreached, ?_⟩
      rw [← World.dropEvents_announced?]
      cases hfailure : passFailure? world.fate (world.notices notifier) with
      | some failure =>
          rw [teardown_of_failure notifier hdenied hfailure]
          rfl
      | none =>
          have hpolled : (world.registry.tasks.map fun task =>
              (.polled task.pid : Event τ)).filterMap Event.announced? = [] := by
            refine filterMap_announced?_eq_nil fun event hmem => ?_
            obtain ⟨task, -, rfl⟩ := List.mem_map.mp hmem
            rfl
          rw [teardown_of_completion notifier hempty hdenied hfailure]
          have hopening (count : Nat) : (openingNote count : Event τ).announced? = none := rfl
          have hrefresh (count : Nat) : (refreshNote count : Event τ).announced? = none := rfl
          have hclosing : (closingNote : Event τ).announced? = none := rfl
          simp only [List.filterMap_cons, List.filterMap_append, hopening, hrefresh, hclosing,
            hpolled, List.filterMap_nil, List.append_nil]

end Pass

/-! ### What a step announces, and whom it leaves tracked -/

section Steps

variable [Moment τ] (setup : RunnerSetup τ σ) (tidy : σ → σ)

omit [Moment τ] in
theorem requireTask_shows (name : String) :
    Shows Event.IsQuiet (fun _ => True)
      (requireTask name : RunnerAction τ σ Task) := by
  unfold requireTask
  refine shows_current.seq fun world => ?_
  split
  · exact shows_pure trivial
  · exact shows_raise _

omit [Moment τ] in
theorem pollTask_shows (task : Task) :
    Shows Event.IsQuiet (fun _ => True)
      (pollTask task : RunnerAction τ σ (Option Int)) := by
  have hprocesses : Shows Event.IsQuiet (fun _ => True)
      (processes : RunnerAction τ σ (Processes τ)) :=
    shows_current.seq fun _ => shows_pure trivial
  have hpolled : (Event.polled task.pid : Event τ).IsQuiet := rfl
  unfold pollTask
  exact (shows_emit hpolled).seq fun _ => hprocesses.seq fun _ =>
    (shows_change _).seq fun _ => shows_pure trivial

omit [Moment τ] in
theorem Event.IsOfDiscovery.isQuiet {event : Event τ} (hevent : event.IsOfDiscovery) :
    event.IsQuiet := by
  cases event <;> first | rfl | exact hevent.elim

theorem leave_events (notifier : Notifier τ σ) (failure? : Option (Failure τ)) (world : World τ σ) :
    (leave notifier failure? world).events = (teardown notifier world).events := by
  unfold leave
  refine events_bind (fun _ _ => ?_) _ _
  cases failure? <;> rfl

/-- Whatever a step is, it announces what the pass announces that it makes, if it makes one. -/
theorem Step.run_announced? (step : Step τ σ) (world : World τ σ) :
    (step.run setup tidy world).events.filterMap Event.announced? =
      if step.isPass then
        (SubgraphLauncher.teardown setup.notifier world).events.filterMap Event.announced?
      else [] := by
  have hquiet (hstep : Shows Event.IsQuiet (fun _ => True) (step.run setup tidy)) :
      (step.run setup tidy world).events.filterMap Event.announced? = [] :=
    filterMap_announced?_eq_nil (hstep world).1
  cases step with
  | spawn name line =>
      refine hquiet (Shows.seq ?_ fun _ => shows_pure trivial)
      exact (spawn_shows setup name line).mono
        (fun _ hevent => hevent.isOfDiscovery.isQuiet) fun _ htrue => htrue
  | discover name line scanner known =>
      refine hquiet (Shows.seq ?_ fun _ => shows_pure trivial)
      exact (discover_shows setup scanner name line known).mono
        (fun _ hevent => hevent.isQuiet) fun _ htrue => htrue
  | pick candidates =>
      refine hquiet (Shows.seq ?_ fun _ => shows_pure trivial)
      exact (pick_shows_choice setup.chooser candidates).mono
        (fun _ hevent => hevent.isOfSearch.isOfDiscovery.isQuiet) fun _ htrue => htrue
  | teardown =>
      have hevents : (Step.teardown.run setup tidy world).events =
          (SubgraphLauncher.teardown setup.notifier world).events :=
        events_bind (fun _ _ => rfl) _ _
      rw [hevents]
      rfl
  | leave failure =>
      have hevents : ((Step.leave failure).run setup tidy world).events =
          (SubgraphLauncher.teardown setup.notifier world).events :=
        (events_bind (fun _ _ => rfl) _ _).trans (leave_events setup.notifier failure world)
      rw [hevents]
      rfl
  | discard =>
      rw [discard_apply, finalize_apply]
      dsimp only
      rw [List.filterMap_append]
      cases (SubgraphLauncher.teardown setup.notifier world).result <;> exact List.append_nil _
  | tracks name => exact hquiet (shows_current.seq fun _ => shows_pure trivial)
  | poll name =>
      exact hquiet ((requireTask_shows name).seq fun task =>
        (pollTask_shows task).seq fun _ => shows_pure trivial)
  | describe name => exact hquiet ((requireTask_shows name).seq fun _ => shows_pure trivial)
  | inspect pid => exact hquiet (shows_current.seq fun _ => shows_pure trivial)
  | pass duration => exact hquiet ((shows_change _).seq fun _ => shows_pure trivial)
  | alter pid exitCode hidden => rfl

/-- A task that is tracked after a step was so before, or was launched by the step. -/
theorem Effect.tracked {notifier : Notifier τ σ} {before after : World τ σ} {step : Step τ σ}
    (heffect : Effect notifier before step after) :
    before.processes.children.length ≤ after.processes.children.length ∧
      ∀ task ∈ after.registry.tasks, task ∈ before.registry.tasks ∨
        before.processes.children.length ≤ task.child := by
  have hnone {tasks : List Task} (hempty : tasks = []) : ∀ task ∈ tasks,
      task ∈ before.registry.tasks ∨ before.processes.children.length ≤ task.child := by
    rw [hempty]
    exact List.forall_mem_nil _
  cases heffect with
  | kept hopen hbook =>
      simp only [World.book, Prod.mk.injEq] at hbook
      rw [hbook.1, hbook.2]
      exact ⟨Nat.le_refl _, fun task htask => .inl htask⟩
  | launched name hsubject hlaunched =>
      rw [hlaunched.processes, Processes.launch_children, hlaunched.tasks, List.length_append]
      refine ⟨Nat.le_add_right _ _, fun task htask => ?_⟩
      rcases List.mem_append.mp htask with hold | hnew
      · exact .inl hold
      · rw [List.mem_singleton] at hnew
        rw [hnew]
        exact .inr (Nat.le_refl _)
  | touched pids hopen htasks hstruck =>
      rw [htasks]
      exact ⟨Nat.le_of_eq hstruck.length.symm, fun task htask => .inl htask⟩
  | cleared pids hdone htasks hstruck hreached =>
      exact ⟨Nat.le_of_eq hstruck.length.symm, hnone htasks⟩
  | renewed pids htasks hstruck => exact ⟨Nat.le_of_eq hstruck.length.symm, hnone htasks⟩
  | altered pid exitCode hidden hregistry hprocesses =>
      rw [hregistry, hprocesses, Processes.update, List.length_map]
      exact ⟨Nat.le_refl _, fun task htask => .inl htask⟩

/-- A step that settles what was launched leaves no task tracked. -/
theorem Effect.tasks_of_settles {notifier : Notifier τ σ} {before after : World τ σ}
    {step : Step τ σ} (heffect : Effect notifier before step after)
    (hsettles : step.settles notifier before = true) : after.registry.tasks = [] := by
  cases heffect with
  | kept hopen hbook => exact absurd (hopen.symm.trans hsettles) Bool.false_ne_true
  | launched name hsubject hlaunched =>
      exact absurd ((Step.settles_of_subject? hsubject).symm.trans hsettles) Bool.false_ne_true
  | touched pids hopen htasks hstruck =>
      exact absurd (hopen.symm.trans hsettles) Bool.false_ne_true
  | cleared pids hdone htasks hstruck hreached => exact htasks
  | renewed pids htasks hstruck => exact htasks
  | altered pid exitCode hidden hregistry hprocesses => cases hsettles

end Steps

/-! ### The removals of a session -/

section Removals

variable [Moment τ] (setup : RunnerSetup τ σ) (tidy : σ → σ)

omit [Moment τ] in
theorem Session.Sound.child_lt {session : Session τ σ} (hsound : session.Sound) {task : Task}
    (htask : task ∈ session.world.registry.tasks) :
    task.child < session.world.processes.children.length := by
  have hplaced := hsound.placed task htask
  rw [Processes.pidAt?, Option.map_eq_some_iff] at hplaced
  obtain ⟨child, hchild, -⟩ := hplaced
  exact (List.getElem?_eq_some_iff.mp hchild).1

/-- The tasks of a removal are a front part of the registry, and no announced name is left out. -/
theorem Session.Sound.removal {session : Session τ σ} (hsound : session.Sound) (step : Step τ σ) :
    (step.removal setup tidy session.world).tasks <+: session.world.registry.tasks ∧
      (step.removal setup tidy session.world).tasks.map (·.name) =
        (step.removal setup tidy session.world).names := by
  have hnames : ∃ tasks, tasks <+: session.world.registry.tasks ∧
      (step.removal setup tidy session.world).names = tasks.map (·.name) := by
    obtain ⟨tasks, hfront, hpass⟩ := teardown_announced? setup.notifier session.world
    have hrun := step.run_announced? setup tidy session.world
    cases hispass : step.isPass with
    | true => exact ⟨tasks, hfront, by rw [Step.removal, hrun, hispass, if_pos rfl, hpass]⟩
    | false =>
        refine ⟨[], List.nil_prefix, ?_⟩
        rw [Step.removal, hrun, hispass, if_neg Bool.false_ne_true]
        rfl
  obtain ⟨tasks, hfront, hnames⟩ := hnames
  have htasks : (step.removal setup tidy session.world).tasks = tasks := by
    change (step.removal setup tidy session.world).names.filterMap _ = tasks
    rw [hnames]
    exact Registry.filterMap_task?_names hsound.names fun task htask => hfront.subset htask
  rw [htasks]
  exact ⟨hfront, hnames.symm⟩

theorem Session.Sound.removal_nodup {session : Session τ σ} (hsound : session.Sound)
    (step : Step τ σ) : (step.removal setup tidy session.world).tasks.Nodup :=
  hsound.names.of_map.sublist (hsound.removal setup tidy step).1.sublist

/-- What is announced by a pass that no failure ends is tracked no more. -/
theorem Session.forgotten_of_not_cutShort {session : Session τ σ} {step : Step τ σ}
    (hdone : (step.removal setup tidy session.world).cutShort = false) :
    (step.removal setup tidy session.world).tasks = [] ∨
      (session.next setup tidy step).world.registry.tasks = [] := by
  cases hispass : step.isPass with
  | false =>
      left
      rw [Step.removal, step.run_announced? setup tidy, hispass]
      rfl
  | true =>
      right
      refine (step.run_effect setup tidy session.world).tasks_of_settles ?_
      have hok : (SubgraphLauncher.teardown setup.notifier session.world).result.isOk = true := by
        simpa [Step.removal, hispass] using hdone
      cases step <;> first | exact hok | rfl | cases hispass

/-- What is announced later is tracked now, or its child has yet to be launched. -/
theorem Session.Sound.mem_removals {session : Session τ σ} (hsound : session.Sound)
    {steps : List (Step τ σ)} {removal : Removal}
    (hremoval : removal ∈ session.removals setup tidy steps) {task : Task}
    (htask : task ∈ removal.tasks) :
    task ∈ session.world.registry.tasks ∨
      session.world.processes.children.length ≤ task.child := by
  induction steps generalizing session with
  | nil => cases hremoval
  | cons step rest ih =>
      rw [Session.removals, List.mem_cons] at hremoval
      rcases hremoval with rfl | hrest
      · exact .inl ((hsound.removal setup tidy step).1.subset htask)
      · obtain ⟨hlength, htracked⟩ := (step.run_effect setup tidy session.world).tracked
        rcases ih (hsound.next setup tidy step) hrest with hlater | hlater
        · exact htracked task hlater
        · exact .inr (Nat.le_trans hlength hlater)

theorem Session.Sound.removals_pairwise {session : Session τ σ} (hsound : session.Sound)
    (steps : List (Step τ σ)) :
    (session.removals setup tidy steps).Pairwise fun earlier later =>
      earlier.cutShort = false → earlier.tasks.Disjoint later.tasks := by
  induction steps generalizing session with
  | nil => exact List.Pairwise.nil
  | cons step rest ih =>
      have hnext := hsound.next setup tidy step
      refine List.pairwise_cons.mpr ⟨?_, ih hnext⟩
      intro later hlater hdone task hearlier hagain
      rcases session.forgotten_of_not_cutShort setup tidy hdone with hnone | hempty
      · rw [hnone] at hearlier
        cases hearlier
      -- The registry is empty by now, so the task could only be one that is yet to be launched; but
      -- the place of its child is taken.
      · have hlt := hsound.child_lt ((hsound.removal setup tidy step).1.subset hearlier)
        have hle := (step.run_effect setup tidy session.world).tracked.1
        rcases hnext.mem_removals setup tidy hlater hagain with htracked | hge
        · rw [hempty] at htracked
          cases htracked
        · exact absurd (Nat.le_trans hle hge) (Nat.not_le_of_lt hlt)

theorem Session.Sound.removals_accurate {session : Session τ σ} (hsound : session.Sound)
    {steps : List (Step τ σ)} {removal : Removal}
    (hremoval : removal ∈ session.removals setup tidy steps) :
    removal.tasks.map (·.name) = removal.names ∧ removal.tasks.Nodup := by
  induction steps generalizing session with
  | nil => cases hremoval
  | cons step rest ih =>
      rw [Session.removals, List.mem_cons] at hremoval
      rcases hremoval with rfl | hrest
      · exact ⟨(hsound.removal setup tidy step).2, hsound.removal_nodup setup tidy step⟩
      · exact ih (hsound.next setup tidy step) hrest

omit [Moment τ] in
/-- Where only removals that were cut short are repeated, each repetition takes one of them. -/
theorem count_removals_le {removals : List Removal}
    (hnodup : ∀ removal ∈ removals, removal.tasks.Nodup)
    (hpairwise : removals.Pairwise fun earlier later =>
      earlier.cutShort = false → earlier.tasks.Disjoint later.tasks) (task : Task) :
    (removals.flatMap (·.tasks)).count task ≤
      (removals.countP fun removal => removal.cutShort && removal.tasks.contains task) + 1 := by
  induction removals with
  | nil => exact Nat.zero_le _
  | cons removal rest ih =>
      rw [List.forall_mem_cons] at hnodup
      rw [List.pairwise_cons] at hpairwise
      have hrest := ih hnodup.2 hpairwise.2
      have honce : removal.tasks.count task ≤ 1 := List.nodup_iff_count_le_one.mp hnodup.1 task
      rw [List.flatMap_cons, List.count_append, List.countP_cons]
      by_cases hmem : task ∈ removal.tasks
      · cases hcut : removal.cutShort with
        | true =>
            simp only [List.contains_iff_mem, hmem, Bool.true_and, if_true]
            omega
        | false =>
            have hnever : (rest.flatMap (·.tasks)).count task = 0 := by
              rw [List.count_eq_zero, List.mem_flatMap]
              rintro ⟨later, hlater, hagain⟩
              exact hpairwise.1 later hlater hcut hmem hagain
            omega
      · rw [List.count_eq_zero_of_not_mem hmem]
        omega

/-- In every session, no pass announces a task twice, and a task is announced again only after
passes that a failure cut short: what any other pass has announced is not announced by a later one.
So a task is announced at most once more often than passes that announced it were cut short. -/
theorem removals_repeat_only_cutShort (start : World τ σ) (steps : List (Step τ σ)) :
    let removals := (Session.fresh start).removals setup tidy steps
    (∀ removal ∈ removals, removal.tasks.map (·.name) = removal.names ∧ removal.tasks.Nodup) ∧
      removals.Pairwise (fun earlier later =>
        earlier.cutShort = false → earlier.tasks.Disjoint later.tasks) ∧
      ∀ task, (removals.flatMap (·.tasks)).count task ≤
        (removals.countP fun removal => removal.cutShort && removal.tasks.contains task) + 1 := by
  intro removals
  have hsound : (Session.fresh start).Sound := Session.Sound.of_empty _ rfl
  have haccurate : ∀ removal ∈ removals, removal.tasks.map (·.name) = removal.names ∧
      removal.tasks.Nodup := fun removal hremoval => hsound.removals_accurate setup tidy hremoval
  have hpairwise := hsound.removals_pairwise setup tidy steps
  refine ⟨haccurate, hpairwise, count_removals_le (fun removal hremoval => ?_) hpairwise⟩
  exact (haccurate removal hremoval).2

end Removals

/-- The user interrupts the announcement of `b`. -/
def interruptedSetup : RunnerSetup Rat Unit :=
  { plainSetup with notifier := Notifier.scripted [("b", .interrupt)] }

/-- Two tasks, a pass that is interrupted at the second one, and a pass after it: the first task is
announced by both. -/
theorem removals_repeat_interruptedSetup :
    ((Session.fresh (bareWorld false)).removals interruptedSetup id
      [.spawn "a" "srv", .spawn "b" "srv", .teardown, .teardown]).map (fun removal =>
        (removal.names, removal.cutShort)) =
        [([], false), ([], false), (["a", "b"], true), (["a", "b"], true)] ∧
      (((Session.fresh (bareWorld false)).removals interruptedSetup id
        [.spawn "a" "srv", .spawn "b" "srv", .teardown, .teardown]).flatMap (·.tasks)).count
          ⟨"a", 5, 0⟩ = 2 := by
  constructor <;> rfl

end SubgraphLauncher
