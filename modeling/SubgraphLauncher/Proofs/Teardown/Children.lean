import Mathlib.Data.List.Forall2
import SubgraphLauncher.Proofs.Teardown.Pass

/-!
# What a pass does to the children

A signal that is delivered ends every running child with its identifier, and a pass delivers some
signals one after another. All of them together end the running children whose identifier is among
those struck and leave every other child as it is; the host neither forgets a child nor puts the
children in another order. A look at a child changes nothing about it but that its exit code has
been read, and about a running child it changes nothing at all.
-/

namespace SubgraphLauncher

variable {τ σ : Type}

/-- A child after signals to some identifiers. -/
def Child.struck (pids : List Int) (child : Child) : Child :=
  if child.pid ∈ pids ∧ child.exitCode = none then
    { child with exitCode := some Processes.signalledCode }
  else child

namespace Child

@[simp] theorem struck_nil : struck [] = id := by
  funext child
  simp [struck]

@[simp] theorem struck_pid (pids : List Int) (child : Child) :
    (child.struck pids).pid = child.pid := by
  unfold struck
  split <;> rfl

@[simp] theorem struck_hidden (pids : List Int) (child : Child) :
    (child.struck pids).hidden = child.hidden := by
  unfold struck
  split <;> rfl

/-- A child that has ended stays so, and one that is struck has ended. -/
theorem struck_exitCode_eq_none_iff (pids : List Int) (child : Child) :
    (child.struck pids).exitCode = none ↔ child.exitCode = none ∧ child.pid ∉ pids := by
  unfold struck
  by_cases hmem : child.pid ∈ pids
  · by_cases hrunning : child.exitCode = none <;> simp [hmem, hrunning]
  · simp [hmem]

theorem struck_of_not_mem {pids : List Int} {child : Child} (hmissed : child.pid ∉ pids) :
    child.struck pids = child := by
  rw [struck, if_neg fun h => hmissed h.1]

theorem struck_cons (pid : Int) (pids : List Int) (child : Child) :
    child.struck (pid :: pids) = (child.struck [pid]).struck pids := by
  unfold struck
  by_cases hrunning : child.exitCode = none
  · by_cases hpid : child.pid = pid <;> simp [hrunning, hpid]
  · simp [hrunning]

@[simp] theorem seen_seen (child : Child) : child.seen.seen = child.seen := by
  simp [seen]

theorem seen_of_running {child : Child} (hrunning : child.exitCode = none) :
    child.seen = child := by
  rw [seen, hrunning, Option.isSome_none, Bool.or_false, ← hrunning]

theorem seen_reaped {child : Child} (hended : child.exitCode ≠ none) :
    child.seen.reaped = true := by
  rw [seen, Option.isSome_iff_ne_none.mpr hended, Bool.or_true]

/-- A child after signals to some identifiers, at which somebody may have looked since. -/
def Follows (pids : List Int) (old new : Child) : Prop :=
  new = old.struck pids ∨ new = (old.struck pids).seen

section Follows

variable {pids : List Int} {old new : Child}

theorem Follows.pid (hfollows : Follows pids old new) : new.pid = old.pid := by
  rcases hfollows with rfl | rfl
  · exact struck_pid pids old
  · exact struck_pid pids old

theorem Follows.hidden (hfollows : Follows pids old new) : new.hidden = old.hidden := by
  rcases hfollows with rfl | rfl
  · exact struck_hidden pids old
  · exact struck_hidden pids old

theorem Follows.exitCode (hfollows : Follows pids old new) :
    new.exitCode = (old.struck pids).exitCode := by
  rcases hfollows with rfl | rfl <;> rfl

theorem Follows.seen (hfollows : Follows pids old new) : Follows pids old new.seen := by
  rcases hfollows with rfl | rfl
  · exact .inr rfl
  · exact .inr (seen_seen _)

/-- A child that is not struck goes on as it was, unless its exit code has been read. -/
theorem Follows.of_missed (hfollows : Follows pids old new) (hmissed : old.pid ∉ pids) :
    new = old ∨ new = old.seen := by
  rwa [Follows, struck_of_not_mem hmissed] at hfollows

theorem Follows.of_running (hfollows : Follows pids old new) (hrunning : old.exitCode = none)
    (hmissed : old.pid ∉ pids) : new = old := by
  rcases hfollows.of_missed hmissed with hsame | hseen
  · exact hsame
  · rw [hseen, seen_of_running hrunning]

end Follows

end Child

theorem Processes.kill_children (processes : Processes τ) (pid : Int) :
    (processes.kill pid).children = processes.children.map (Child.struck [pid]) := by
  refine List.map_congr_left fun child _ => ?_
  simp only [Child.struck, List.mem_singleton]

/-- Whether a pass delivers a signal to the process of a task. -/
def Notice.isStruck (strike : Int → Strike) (notice : Notice τ σ) : Bool :=
  notice.failure?.isNone && strike notice.task.pid == .delivered

/-- The identifiers to which signals are delivered. -/
def struckPids (strike : Int → Strike) (notices : List (Notice τ σ)) : List Int :=
  (notices.filter (·.isStruck strike)).map (·.task.pid)

theorem mem_struckPids {strike : Int → Strike} {notices : List (Notice τ σ)} {pid : Int} :
    pid ∈ struckPids strike notices ↔
      strike pid = .delivered ∧
        ∃ notice ∈ notices, notice.failure? = none ∧ notice.task.pid = pid := by
  simp only [struckPids, List.mem_map, List.mem_filter, Notice.isStruck, Bool.and_eq_true,
    Option.isNone_iff_eq_none, beq_iff_eq]
  constructor
  · rintro ⟨notice, ⟨hmem, hfailure, hstrike⟩, rfl⟩
    exact ⟨hstrike, notice, hmem, hfailure, rfl⟩
  · rintro ⟨hstrike, notice, hmem, hfailure, rfl⟩
    exact ⟨notice, ⟨hmem, hfailure, hstrike⟩, rfl⟩

theorem Notice.passLeaves_eq (strike : Int → Strike) (notice : Notice τ σ)
    (processes : Processes τ) :
    notice.passLeaves strike processes =
      if notice.isStruck strike then processes.kill notice.task.pid else processes := by
  unfold passLeaves isStruck
  cases hfailure : notice.failure? with
  | some failure => rfl
  | none => cases strike notice.task.pid <;> rfl

theorem processesAfter_children (strike : Int → Strike) (processes : Processes τ)
    (notices : List (Notice τ σ)) :
    (processesAfter strike processes notices).children =
      processes.children.map (Child.struck (struckPids strike notices)) := by
  induction notices generalizing processes with
  | nil => simp [processesAfter, struckPids]
  | cons notice rest ih =>
      have hrest : (processesAfter strike processes (notice :: rest)).children =
          (notice.passLeaves strike processes).children.map
            (Child.struck (struckPids strike rest)) := ih _
      rw [hrest, Notice.passLeaves_eq]
      by_cases hstruck : notice.isStruck strike
      · have hpids : struckPids strike (notice :: rest) =
            notice.task.pid :: struckPids strike rest := by
          simp [struckPids, hstruck]
        rw [if_pos hstruck, Processes.kill_children, List.map_map, hpids]
        refine List.map_congr_left fun child _ => ?_
        exact (Child.struck_cons _ _ child).symm
      · have hpids : struckPids strike (notice :: rest) = struckPids strike rest := by
          simp [struckPids, hstruck]
        rw [if_neg hstruck, hpids]

theorem processesAfter_signalFaults (strike : Int → Strike) (processes : Processes τ)
    (notices : List (Notice τ σ)) :
    (processesAfter strike processes notices).signalFaults = processes.signalFaults := by
  induction notices generalizing processes with
  | nil => rfl
  | cons notice rest ih =>
      exact (ih _).trans (Notice.passLeaves_signalFaults strike notice processes)

/-- The effect of signals to some identifiers, and of looks at some children. -/
structure Struck (pids : List Int) (before after : Processes τ) : Prop where
  children : List.Forall₂ (Child.Follows pids) before.children after.children
  signalFaults : after.signalFaults = before.signalFaults

theorem Struck.of_children {pids : List Int} {before after : Processes τ}
    (hchildren : after.children = before.children.map (Child.struck pids))
    (hfaults : after.signalFaults = before.signalFaults) : Struck pids before after := by
  refine ⟨?_, hfaults⟩
  rw [hchildren, List.forall₂_map_right_iff, List.forall₂_same]
  exact fun child _ => .inl rfl

theorem Struck.refl (processes : Processes τ) : Struck [] processes processes :=
  .of_children (by rw [Child.struck_nil, List.map_id]) rfl

section Struck

variable {pids : List Int} {before after : Processes τ}

theorem Struck.length (hstruck : Struck pids before after) :
    after.children.length = before.children.length :=
  hstruck.children.length_eq.symm

theorem Struck.exists_before (hstruck : Struck pids before after) {place : Nat} {new : Child}
    (hnew : after.children[place]? = some new) :
    ∃ old, before.children[place]? = some old ∧ Child.Follows pids old new := by
  obtain ⟨hplace, rfl⟩ := List.getElem?_eq_some_iff.mp hnew
  have hbound : place < before.children.length := hstruck.length ▸ hplace
  exact ⟨_, List.getElem?_eq_getElem hbound, hstruck.children.get hbound hplace⟩

theorem Struck.exists_after (hstruck : Struck pids before after) {place : Nat} {old : Child}
    (hold : before.children[place]? = some old) :
    ∃ new, after.children[place]? = some new ∧ Child.Follows pids old new := by
  obtain ⟨hplace, rfl⟩ := List.getElem?_eq_some_iff.mp hold
  have hbound : place < after.children.length := hstruck.length.symm ▸ hplace
  exact ⟨_, List.getElem?_eq_getElem hbound, hstruck.children.get hplace hbound⟩

theorem Struck.map_pid (hstruck : Struck pids before after) :
    after.children.map (·.pid) = before.children.map (·.pid) := by
  rw [eq_comm, ← List.forall₂_eq_eq_eq, List.forall₂_map_left_iff, List.forall₂_map_right_iff]
  exact hstruck.children.imp fun _ _ hfollows => hfollows.pid.symm

theorem Struck.look (hstruck : Struck pids before after) (place : Nat) :
    Struck pids before (after.look place) := by
  refine ⟨?_, hstruck.signalFaults⟩
  have hchildren := hstruck.children
  rw [Processes.look]
  generalize before.children = olds, after.children = news at hchildren
  induction hchildren generalizing place with
  | nil =>
      rw [List.modify_nil]
      exact .nil
  | cons hchild hrest ih =>
      cases place with
      | zero =>
          rw [List.modify_zero_cons]
          exact .cons hchild.seen hrest
      | succ place =>
          rw [List.modify_succ_cons]
          exact .cons hchild (ih place)

theorem Struck.lookAt (hstruck : Struck pids before after) (tasks : List Task) :
    Struck pids before (after.lookAt tasks) := by
  induction tasks generalizing after with
  | nil => exact hstruck
  | cons task rest ih => exact ih (hstruck.look task.child)

theorem Struck.lookAtAll (hstruck : Struck pids before after) :
    Struck pids before after.lookAtAll := by
  refine ⟨?_, hstruck.signalFaults⟩
  rw [Processes.lookAtAll, List.forall₂_map_right_iff]
  exact hstruck.children.imp fun _ _ hfollows => hfollows.seen

theorem Struck.signalFault? (hstruck : Struck pids before after) (pid : Int) :
    after.signalFault? pid = before.signalFault? pid := by
  rw [Processes.signalFault?, Processes.signalFault?, hstruck.signalFaults]

end Struck

/-! ### Nobody lingers -/

/-- The child at a place is running, or its exit code has been read. -/
def Processes.ReapedAt (processes : Processes τ) (place : Nat) : Prop :=
  ∀ child, processes.children[place]? = some child → child.exitCode ≠ none → child.reaped = true

theorem Processes.look_reapedAt (processes : Processes τ) (place : Nat) :
    (processes.look place).ReapedAt place := by
  intro child hchild hended
  simp only [look, List.getElem?_modify_eq, Option.map_eq_map, Option.map_eq_some_iff] at hchild
  obtain ⟨old, -, rfl⟩ := hchild
  exact Child.seen_reaped hended

theorem Processes.ReapedAt.look {processes : Processes τ} {place : Nat}
    (hreaped : processes.ReapedAt place) (other : Nat) :
    (processes.look other).ReapedAt place := by
  by_cases hsame : other = place
  · rw [hsame]
    exact processes.look_reapedAt place
  · intro child hchild hended
    simp only [Processes.look, List.getElem?_modify_ne Child.seen _ hsame] at hchild
    exact hreaped child hchild hended

theorem Processes.ReapedAt.lookAt {processes : Processes τ} {place : Nat}
    (hreaped : processes.ReapedAt place) (tasks : List Task) :
    (processes.lookAt tasks).ReapedAt place := by
  induction tasks generalizing processes with
  | nil => exact hreaped
  | cons task rest ih => exact ih (hreaped.look task.child)

theorem Processes.lookAt_reapedAt (processes : Processes τ) {tasks : List Task} {task : Task}
    (htask : task ∈ tasks) : (processes.lookAt tasks).ReapedAt task.child := by
  obtain ⟨front, back, rfl⟩ := List.append_of_mem htask
  rw [lookAt, List.foldl_append, List.foldl_cons]
  exact (look_reapedAt _ task.child).lookAt back

theorem World.dropped_struck [Moment τ] (notifier : Notifier τ σ) (world : World τ σ) :
    Struck (struckPids world.fate (reached world.fate (world.notices notifier)))
      world.processes (world.dropped notifier).processes :=
  .of_children (processesAfter_children _ _ _) (processesAfter_signalFaults _ _ _)

/-- A pass that nothing ends delivers a signal to every task that has one coming. -/
theorem World.mem_struckPids_of_completion [Moment τ] {notifier : Notifier τ σ}
    {world : World τ σ} (hnone : passFailure? world.fate (world.notices notifier) = none)
    {task : Task} (htask : task ∈ world.registry.tasks) (hlisted : task.pid ∈ world.processIds)
    (hfault : world.processes.signalFault? task.pid = none) :
    task.pid ∈ struckPids world.fate (world.notices notifier) := by
  have hnotice : ∃ notice ∈ world.notices notifier, notice.task = task := by
    rw [← List.mem_map, notices, noticesOf_map_task]
    exact htask
  obtain ⟨notice, hmem, rfl⟩ := hnotice
  have hpass := (Notice.passFailure?_eq_none_iff _ _).mp
    ((passFailure?_eq_none_iff _ _).mp hnone notice hmem)
  rw [mem_struckPids]
  exact ⟨(fate_eq_delivered_iff world _).mpr ⟨hlisted, hfault⟩, notice, hmem, hpass.1, rfl⟩

end SubgraphLauncher
