import SubgraphLauncher.Proofs.Program.Command
import SubgraphLauncher.Proofs.Program.Outlook
import SubgraphLauncher.Proofs.Teardown.Completed

/-!
# No child is left behind

However the program ends, it has launched at most one child, and that child has been announced as
removed once and signalled once where the host still had it. The start writes one task into an empty
registry or none, whatever else becomes of it. As long as the process table can be read, signals are
refused only because of the process, and notices fail in ordinary ways, nothing can end the teardown
of that one task early, so the runner is dropped with nothing left to do.

The status then tells how the start has ended: a failure of the task is reported, and without a
failure the program waits until it is interrupted.
-/

namespace SubgraphLauncher

open SubgraphLauncher.Action RunnerAction

variable {τ σ : Type}

/-- The process that an event signals. -/
def Event.signalled? : Event τ → Option Int
  | .signalled pid _ => some pid
  | _ => none

theorem filterMap_signalled?_filter_isDeed (events : List (Event τ)) :
    (events.filter Event.isDeed).filterMap Event.signalled? =
      events.filterMap Event.signalled? := by
  rw [List.filterMap_filter]
  refine List.filterMap_congr fun event _ => ?_
  cases event <;> rfl

/-! ### What the teardown meets -/

namespace Processes

theorem lapse_pids (processes : Processes τ) (exits : Int → Option Int) :
    (processes.lapse exits).children.map (·.pid) = processes.children.map (·.pid) := by
  rw [lapse, List.map_map]
  rfl

end Processes

/-- A teardown without a failure leaves no task. -/
theorem tasks_of_completed [Moment τ] {notifier : Notifier τ σ} {world : World τ σ}
    (hdone : (teardown notifier world).result = .ok ()) :
    (teardown notifier world).state.registry.tasks = [] := by
  by_cases hempty : world.registry.tasks = []
  · rw [teardown_of_empty notifier hempty]
    exact hempty
  · rw [(teardown_completedPass hempty hdone).registry]

namespace Program

variable (program : Program)

/-- Notices of the program fail in ordinary ways, whenever they are sent to what a world offers. -/
def NoticesAreOrdinary (world : World Float (Desk Float)) : Prop :=
  ∀ target, NoticeTarget.ofSettings program.settings none none = .ok target →
    ∀ name (scene : Scene Float (Desk Float)), scene.offer = world.scene.offer →
      ∀ failure, (announceRemoval target name scene).result = .error failure →
        failure.isOrdinary = true

namespace Begins

variable {program} {world : World Float (Desk Float)} {journal : Journal} {report : Report}
  (begins : program.Begins world journal report)

/-- The start leaves the registry empty and the processes alone, or launches one child. -/
theorem started_cases :
    (begins.started.state.registry.tasks = [] ∧
      begins.started.state.processes = world.processes) ∨
    begins.started.state.registry.tasks = [world.nextTask begins.name] ∧
      begins.started.state.processes = world.processes.launch.2 := by
  rcases program.start_mayLaunch (program.runnerSetup begins.target) begins.name begins.line
    (opened world) with hbook | hlaunched
  · simp only [World.book, Prod.mk.injEq] at hbook
    exact .inl ⟨congrArg Registry.tasks hbook.1, hbook.2⟩
  · exact .inr ⟨hlaunched.tasks, hlaunched.processes⟩

theorem started_offer : begins.started.state.scene.offer = world.scene.offer :=
  program.start_keeps_offer begins.target begins.name begins.line (opened world)

theorem closing_signalFault? (pid : Int) :
    (program.closing begins.started.state).processes.signalFault? pid =
      world.processes.signalFault? pid := by
  rcases begins.started_cases with ⟨-, hprocesses⟩ | ⟨-, hprocesses⟩
  · simp only [closing, hprocesses, Processes.signalFault?, Processes.lapse]
  · simp only [closing, hprocesses, Processes.signalFault?, Processes.lapse,
      Processes.launch_signalFaults]

section Contained

variable (hreadable : world.scene.network.processesDenied = false)
  (hsignals : ∀ pid, world.processes.signalFault? pid ≠ some .notPermitted)
  (hnotices : program.NoticesAreOrdinary world)
include hreadable hsignals hnotices

theorem torn_ok : begins.torn.result = .ok () := by
  refine (teardown_result_eq_ok_iff _).mpr ?_
  rcases begins.started_cases with ⟨htasks, -⟩ | ⟨htasks, -⟩
  · exact .inl htasks
  refine .inr ⟨?_, ?_⟩
  · have hoffer := congrArg Network.processesDenied begins.started_offer
    exact hoffer.trans hreadable
  · have hclosing : (program.closing begins.started.state).registry.tasks =
        [world.nextTask begins.name] := htasks
    rw [passFailure?_eq_none_iff, World.notices, hclosing]
    refine List.forall_mem_singleton.mpr ?_
    rw [Notice.passFailure?_eq_none_iff, Notice.failure?_eq_none_iff, Ne,
      World.fate_eq_refused_iff, closing_signalFault?]
    refine ⟨fun failure hfailure => ?_, fun hrefused => hsignals _ hrefused.2⟩
    exact hnotices begins.target begins.target_eq _ _ begins.started_offer failure hfailure

theorem dropped_eq : begins.dropped = ⟨.ok (), begins.torn.state, []⟩ := by
  have htasks : begins.torn.state.registry.tasks = [] :=
    tasks_of_completed (begins.torn_ok hreadable hsignals hnotices)
  rw [dropped, finalize_apply, teardown_of_empty _ htasks]
  rfl

theorem report_result : report.result = verdict begins.started.result := by
  rw [begins.result_eq, supervise_eq, begins.torn_ok hreadable hsignals hnotices]

theorem report_world : report.world = begins.torn.state := by
  rw [begins.world_eq, supervise_eq, begins.dropped_eq hreadable hsignals hnotices]

theorem report_deeds :
    report.events.filter Event.isDeed = begins.torn.events.filter Event.isDeed := by
  have hstart : begins.started.events.filter Event.isDeed = [] := by
    rw [List.filter_eq_nil_iff]
    intro event hmem
    have hevent := (program.start_shows _ _ _ _).1 event hmem
    cases event <;> first | exact Bool.false_ne_true | exact hevent.elim
  have hepilogue : (program.epilogue begins.started.result).filter Event.isDeed = [] := by
    rw [List.filter_eq_nil_iff]
    intro event hmem
    rcases mem_epilogue program hmem with rfl | ⟨written, rfl⟩ <;> exact Bool.false_ne_true
  rw [begins.events_eq, supervise_eq, begins.dropped_eq hreadable hsignals hnotices]
  simp only [List.filter_append, hstart, hepilogue, List.nil_append, List.append_nil]

end Contained

end Begins

end Program

/-! ### What is left -/

/-- The program has launched no child, and has neither announced nor signalled anything. -/
structure Report.IsChildless (report : Report) (world : World Float (Desk Float)) : Prop where
  children : report.world.processes.children.map (·.pid) = world.processes.children.map (·.pid)
  announced : report.events.filterMap Event.announced? = []
  signalled : report.events.filterMap Event.signalled? = []

/-- The program has launched one child under a name. It has announced that name once, and has
signalled the child once if the host had it, but no other process. -/
structure Report.HasParted (report : Report) (world : World Float (Desk Float)) (name : String)
    (pid : Int) : Prop where
  children : report.world.processes.children.map (·.pid) =
    world.processes.children.map (·.pid) ++ [pid]
  announced : report.events.filterMap Event.announced? = [name]
  signalled : report.events.filterMap Event.signalled? =
    if pid ∈ report.world.registry.snapshot then [pid] else []
  forgotten : report.world.registry.tasks = []

namespace Program

variable {program : Program} {world : World Float (Desk Float)} {journal : Journal}
  {report : Report}

theorem Idles.isChildless (hidle : program.Idles world report) : report.IsChildless world := by
  refine ⟨by rw [hidle.world], ?_, ?_⟩ <;> rw [hidle.events] <;> rfl

namespace Begins

variable (begins : program.Begins world journal report)
  (hreadable : world.scene.network.processesDenied = false)
  (hsignals : ∀ pid, world.processes.signalFault? pid ≠ some .notPermitted)
  (hnotices : program.NoticesAreOrdinary world)
include hreadable hsignals hnotices

theorem isChildless (htasks : begins.started.state.registry.tasks = [])
    (hprocesses : begins.started.state.processes = world.processes) :
    report.IsChildless world := by
  have hclosing : (program.closing begins.started.state).registry.tasks = [] := htasks
  have htorn : begins.torn = ⟨.ok (), program.closing begins.started.state, []⟩ :=
    teardown_of_empty _ hclosing
  have hdeeds : report.events.filter Event.isDeed = [] := by
    rw [begins.report_deeds hreadable hsignals hnotices, htorn]
    rfl
  constructor
  · rw [begins.report_world hreadable hsignals hnotices, htorn]
    change (begins.started.state.processes.lapse program.exits).children.map (·.pid) = _
    rw [Processes.lapse_pids, hprocesses]
  · rw [← filterMap_announced?_filter_isDeed, hdeeds]
    rfl
  · rw [← filterMap_signalled?_filter_isDeed, hdeeds]
    rfl

theorem hasParted (htasks : begins.started.state.registry.tasks = [world.nextTask begins.name])
    (hprocesses : begins.started.state.processes = world.processes.launch.2) :
    report.HasParted world begins.name world.processes.launch.1 := by
  let closed := program.closing begins.started.state
  have hclosed : closed.registry.tasks = [world.nextTask begins.name] := htasks
  have hsome : closed.registry.tasks ≠ [] := by
    rw [hclosed]
    exact List.cons_ne_nil _ _
  have hpass : CompletedPass (program.runnerSetup begins.target).notifier closed begins.torn :=
    teardown_completedPass hsome (begins.torn_ok hreadable hsignals hnotices)
  have hworld := begins.report_world hreadable hsignals hnotices
  have hdeeds : report.events.filter Event.isDeed =
      .announced begins.name :: (closed.signals world.processes.launch.1 ++
        [.polled world.processes.launch.1]) := by
    rw [begins.report_deeds hreadable hsignals hnotices, hpass.deeds, hclosed, World.dropDeeds,
      List.flatMap_singleton]
    rfl
  have hsnapshot : report.world.registry = ⟨[], closed.processIds⟩ := by
    rw [hworld, hpass.registry]
  constructor
  · rw [hworld, hpass.pids]
    change (begins.started.state.processes.lapse program.exits).children.map (·.pid) = _
    rw [Processes.lapse_pids, hprocesses, Processes.launch_children, List.map_append]
    rfl
  · rw [← filterMap_announced?_filter_isDeed, hdeeds, World.signals]
    split <;> rfl
  · rw [← filterMap_signalled?_filter_isDeed, hdeeds, World.signals, hsnapshot]
    split <;> rfl
  · rw [hsnapshot]

end Begins

/-! ### What the status tells -/

theorem task?_eq_none_iff (program : Program) :
    program.task? = none ↔ (splitFlags program.arguments).2.length < 2 := by
  rw [task?]
  rcases (splitFlags program.arguments).2 with _ | ⟨name, _ | ⟨word, rest⟩⟩ <;> simp

/-- What a status tells about a run that has one. -/
structure Accounts (program : Program) (world : World Float (Desk Float)) (report : Report)
    (status : Int) : Prop where
  unnamed : status = 2 ↔ (splitFlags program.arguments).2.length < 2
  idle : status = 2 → report.events = [] ∧ report.world = world
  failed : status = 1 ↔ ∃ failure, program.startResult? world = some (.error failure) ∧
    failure.isIn .task = true
  interrupted : status = 0 ↔ [.waited, interruptNote] <:+: report.events

theorem Idles.accounts (hidle : program.Idles world report) {status : Int}
    (hstatus : report.result = .ok status) : program.Accounts world report status := by
  rcases hidle.result with ⟨failure, hfailure⟩ | ⟨htask, htwo⟩
  · rw [hfailure] at hstatus
    cases hstatus
  obtain rfl : 2 = status := Except.ok.inj (htwo.symm.trans hstatus)
  refine ⟨?_, fun _ => ⟨hidle.events, hidle.world⟩, ?_, ?_⟩
  · rw [← task?_eq_none_iff, htask]
    exact ⟨fun _ => rfl, fun _ => rfl⟩
  · rw [startResult?, htask]
    exact ⟨fun hone => absurd hone (by decide), fun ⟨_, hfailure, _⟩ => by cases hfailure⟩
  · rw [hidle.events, List.infix_nil]
    exact ⟨fun hzero => absurd hzero (by decide), fun hwaited => by cases hwaited⟩

theorem verdict_eq_ok {result : Except (Failure Float) Unit} {status : Int}
    (hverdict : verdict result = .ok status) :
    result = .ok () ∧ status = 0 ∨ ∃ cause, result = .error (.task cause) ∧ status = 1 := by
  unfold verdict at hverdict
  split at hverdict
  · exact .inl ⟨rfl, (Except.ok.inj hverdict).symm⟩
  · exact .inr ⟨_, rfl, (Except.ok.inj hverdict).symm⟩
  · cases hverdict

namespace Begins

variable (begins : program.Begins world journal report)

theorem startResult?_eq : program.startResult? world = some begins.started.result := by
  rw [startResult?, begins.task_eq, begins.target_eq]
  rfl

include begins

theorem waited_mem_iff : .waited ∈ report.events ↔ begins.started.result = .ok () := by
  obtain ⟨last, hlast, hevents⟩ := begins.events_split
  rw [hevents, List.mem_append, List.mem_append]
  constructor
  · rintro ((hstarted | hepilogue) | hparting)
    · exact ((program.start_shows _ _ _ _).1 _ hstarted).elim
    · rcases hresult : begins.started.result with failure | ⟨⟩
      · rw [hresult] at hepilogue
        cases failure <;> simp [epilogue] at hepilogue
      · rfl
    · exact (hlast _ hparting).elim
  · intro hstarted
    rw [hstarted]
    exact .inl (.inr (List.mem_cons_of_mem _ (List.mem_append_right _ List.mem_cons_self)))

/-- The program is interrupted as it waits, just if its start has not failed. -/
theorem interrupted_iff :
    [.waited, interruptNote] <:+: report.events ↔ begins.started.result = .ok () := by
  refine ⟨fun hwaited => begins.waited_mem_iff.mp (hwaited.subset List.mem_cons_self), ?_⟩
  intro hstarted
  obtain ⟨last, -, hevents⟩ := begins.events_split
  rw [hevents, hstarted]
  have hend : [.waited, interruptNote] <:+ program.epilogue (.ok ()) :=
    (List.suffix_append _ _).trans (List.suffix_cons _ _)
  obtain ⟨front, hfront⟩ := hend
  exact ⟨begins.started.events ++ front, last, by simp only [← hfront, List.append_assoc]⟩

theorem accounts {status : Int} (hverdict : verdict begins.started.result = .ok status) :
    program.Accounts world report status := by
  have hnamed : ¬ (splitFlags program.arguments).2.length < 2 := by
    rw [← task?_eq_none_iff, begins.task_eq]
    exact Option.some_ne_none _
  have hresult := begins.startResult?_eq
  have hinterrupted := begins.interrupted_iff
  rcases verdict_eq_ok hverdict with ⟨hstarted, rfl⟩ | ⟨cause, hstarted, rfl⟩
  · rw [hstarted] at hresult hinterrupted
    refine ⟨?_, fun htwo => absurd htwo (by decide), ?_, ?_⟩
    · exact ⟨fun htwo => absurd htwo (by decide), fun hfew => absurd hfew hnamed⟩
    · refine ⟨fun hone => absurd hone (by decide), fun ⟨failure, hfailure, _⟩ => ?_⟩
      rw [hresult] at hfailure
      cases hfailure
    · exact ⟨fun _ => hinterrupted.mpr rfl, fun _ => rfl⟩
  · rw [hstarted] at hresult hinterrupted
    refine ⟨?_, fun htwo => absurd htwo (by decide), ?_, ?_⟩
    · exact ⟨fun htwo => absurd htwo (by decide), fun hfew => absurd hfew hnamed⟩
    · exact ⟨fun _ => ⟨.task cause, hresult, rfl⟩, fun _ => rfl⟩
    · refine ⟨fun hzero => absurd hzero (by decide), fun hwaited => ?_⟩
      cases hinterrupted.mp hwaited

end Begins

theorem exists_of_startResult? {result : Except (Failure Float) Unit}
    (hresult : program.startResult? world = some result) :
    ∃ name line target, program.task? = some (name, line) ∧
      NoticeTarget.ofSettings program.settings none none = .ok target := by
  rw [startResult?] at hresult
  split at hresult
  · rename_i name line target htask htarget
    exact ⟨name, line, target, htask, htarget⟩
  · cases hresult

/-- With its journal set up, a program that gets to its start has the status of how that ended. -/
theorem result_of_startResult? {level : Int} (hlevel : program.consoleLevel = .ok level)
    {ready : Journal}
    (hready : journal.setUp level none (program.settings.value .logFile) = (.ok (), ready))
    (hreadable : world.scene.network.processesDenied = false)
    (hsignals : ∀ pid, world.processes.signalFault? pid ≠ some .notPermitted)
    (hnotices : program.NoticesAreOrdinary world) {result : Except (Failure Float) Unit}
    (hresult : program.startResult? world = some result) :
    (program.run world journal).result = verdict result := by
  obtain ⟨name, line, target, htask, htarget⟩ := exists_of_startResult? hresult
  let begins := Begins.ofReady program name line hlevel hready htask htarget world
  have hsame := begins.startResult?_eq.symm.trans hresult
  rw [begins.report_result hreadable hsignals hnotices, Option.some.inj hsame]

/-- Where the process table can be read, signals are refused only because of the process and notices
fail in ordinary ways, a run asks for at most one process and parts with what it has launched,
however it ends. The status tells which way that was, and there is one unless a failure that is none
of the task goes on. -/
theorem run_leaves_no_child (program : Program) (world : World Float (Desk Float))
    (journal : Journal) (hreadable : world.scene.network.processesDenied = false)
    (hsignals : ∀ pid, world.processes.signalFault? pid ≠ some .notPermitted)
    (hnotices : program.NoticesAreOrdinary world) :
    ((program.run world journal).events.filterMap Event.launched?).length ≤ 1 ∧
      ((program.run world journal).IsChildless world ∨
        ∃ name line pid, program.task? = some (name, line) ∧
          (program.run world journal).HasParted world name pid) ∧
      (∀ status, (program.run world journal).result = .ok status →
        program.Accounts world (program.run world journal) status) ∧
      ∀ level ready, program.consoleLevel = .ok level →
        journal.setUp level none (program.settings.value .logFile) = (.ok (), ready) →
        (program.task? = none → (program.run world journal).result = .ok 2) ∧
        (program.startResult? world = some (.ok ()) →
          (program.run world journal).result = .ok 0) ∧
        ∀ cause, program.startResult? world = some (.error (.task cause)) →
          (program.run world journal).result = .ok 1 := by
  refine ⟨?_, ?_, fun status hstatus => ?_, fun level ready hlevel hready => ⟨?_, ?_, ?_⟩⟩
  · rcases program.run_cases world journal with hidle | ⟨⟨begins⟩⟩
    · rw [hidle.events]
      exact Nat.zero_le 1
    · rcases begins.asksOnce with hnone | hone
      · rw [hnone]
        exact Nat.zero_le 1
      · rw [hone]
        exact Nat.le_refl 1
  · rcases program.run_cases world journal with hidle | ⟨⟨begins⟩⟩
    · exact .inl hidle.isChildless
    · rcases begins.started_cases with ⟨htasks, hprocesses⟩ | ⟨htasks, hprocesses⟩
      · exact .inl (begins.isChildless hreadable hsignals hnotices htasks hprocesses)
      · exact .inr ⟨begins.name, begins.line, _, begins.task_eq,
          begins.hasParted hreadable hsignals hnotices htasks hprocesses⟩
  · rcases program.run_cases world journal with hidle | ⟨⟨begins⟩⟩
    · exact hidle.accounts hstatus
    · rw [begins.report_result hreadable hsignals hnotices] at hstatus
      exact begins.accounts hstatus
  · intro htask
    rw [run_of_ready program hlevel hready, htask]
  · exact fun hstarted =>
      result_of_startResult? hlevel hready hreadable hsignals hnotices hstarted
  · exact fun cause hfailed =>
      result_of_startResult? hlevel hready hreadable hsignals hnotices hfailed

end Program

/-- Where nobody answers, a notice fails in an ordinary way. -/
theorem announceRemoval_of_no_services [Moment τ] {scene : Scene τ σ}
    (hservices : scene.network.services = []) (target : NoticeTarget τ) (name : String) :
    ∃ message, (announceRemoval target name scene).result = .error (.notice message) := by
  have hanswer : scene.network.answer? target.url = none := by
    rw [Network.answer?, hservices]
    rfl
  have hpost : (post target.url (removalBody name) target.timeout scene).result =
      .error (.other .connectionError (some ("refused: " ++ target.url))) := by
    simp [post, PartnerAction.network, bind_apply, hanswer]
  unfold announceRemoval
  rw [bind_apply, attempt_apply, bind_apply, hpost]
  exact ⟨_, rfl⟩

theorem run_leaves_no_child_spacedProgram :
    bareHost.scene.network.processesDenied = false ∧
      (∀ pid, bareHost.processes.signalFault? pid ≠ some .notPermitted) ∧
      spacedProgram.NoticesAreOrdinary bareHost ∧
      (∃ name line pid, spacedProgram.task? = some (name, line) ∧
        (spacedProgram.run bareHost bareJournal).HasParted bareHost name pid) ∧
      (spacedProgram.run bareHost bareJournal).result = .ok 0 ∧
      spacedProgram.Accounts bareHost (spacedProgram.run bareHost bareJournal) 0 := by
  have hreadable : bareHost.scene.network.processesDenied = false := rfl
  have hsignals : ∀ pid, bareHost.processes.signalFault? pid ≠ some .notPermitted :=
    fun pid hfault => by cases hfault
  have hnotices : spacedProgram.NoticesAreOrdinary bareHost := by
    intro target _ name scene hoffer failure hfailure
    have hservices : scene.network.services = [] := congrArg Network.services hoffer
    obtain ⟨message, hresult⟩ := announceRemoval_of_no_services hservices target name
    rw [← Except.error.inj (hresult.symm.trans hfailure)]
    rfl
  have hspawn := spacedProgram_started.trans (spawn_of_accepted _ rfl spacedProgram_command rfl)
  have hstarted : spacedProgram.startResult? bareHost = some (.ok ()) := by
    rw [spacedProgram_begins.startResult?_eq, hspawn]
    rfl
  have hchild : ¬ (spacedProgram.run bareHost bareJournal).IsChildless bareHost := by
    intro hnone
    have hnamed := (spacedProgram_begins.hasParted hreadable hsignals hnotices
      (by rw [hspawn]; rfl) (by rw [hspawn]; rfl)).announced
    rw [hnone.announced] at hnamed
    cases hnamed
  obtain ⟨-, hparted, haccounts, hreturns⟩ :=
    Program.run_leaves_no_child spacedProgram bareHost bareJournal hreadable hsignals hnotices
  have hzero := (hreturns 10 _ rfl rfl).2.1 hstarted
  exact ⟨hreadable, hsignals, hnotices, hparted.resolve_left hchild, hzero, haccounts 0 hzero⟩

end SubgraphLauncher
