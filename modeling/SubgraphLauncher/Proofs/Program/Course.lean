import SubgraphLauncher.Proofs.Discovery.Footprint
import SubgraphLauncher.Proofs.Session.Announcements
import SubgraphLauncher.Program.Basic

/-!
# The course of the program

The program starts its task, settles how that has ended, and leaves the block of its runner. Each of
the three is one equation here, so that a statement about the whole run needs to know three things:
what a start can do, what is said after it, and what a teardown does.

A start asks the host for a process at most once, and nothing after it does.
-/

namespace SubgraphLauncher

open SubgraphLauncher.Action RunnerAction

variable {τ σ : Type}

/-! ### Asking for a process -/

/-- An action that asks the host for a process at most once, and then with the words of a line. -/
def AsksOnce {α : Type} (line : String) (x : RunnerAction τ σ α) : Prop :=
  ∀ world, (x world).events.filterMap Event.launched? = [] ∨
    (x world).events.filterMap Event.launched? = [wordsOf line]

/-- An action that asks the host for no process. -/
abbrev AsksNever {α : Type} (x : RunnerAction τ σ α) : Prop :=
  Shows (fun event => event.launched? = none) (fun _ => True) x

section AsksOnce

variable {α β : Type} {line : String} {x : RunnerAction τ σ α} {f : α → RunnerAction τ σ β}

theorem AsksOnce.before (hx : AsksOnce line x) (hf : ∀ a, AsksNever (f a)) :
    AsksOnce line (x >>= f) := by
  intro world
  rw [bind_apply]
  cases (x world).result with
  | error failure => exact hx world
  | ok a =>
      have hrest := filterMap_launched?_eq_nil (hf a (x world).state).1
      simp only [List.filterMap_append, hrest, List.append_nil]
      exact hx world

theorem AsksOnce.after (hx : AsksNever x) (hf : ∀ a, AsksOnce line (f a)) :
    AsksOnce line (x >>= f) := by
  intro world
  have hfront := filterMap_launched?_eq_nil (hx world).1
  rw [bind_apply]
  cases (x world).result with
  | error failure => exact .inl hfront
  | ok a =>
      simp only [List.filterMap_append, hfront, List.nil_append]
      exact hf a (x world).state

end AsksOnce

section Launch

variable [Moment τ] (setup : RunnerSetup τ σ)

theorem spawn_asksOnce (name line : String) : AsksOnce line (spawn setup name line) := by
  intro world
  have hattempt := spawn_attempt setup name line world
  generalize wordsOf line = argv, spawn setup name line world = run at hattempt ⊢
  cases hattempt with
  | failed => exact .inr (by simp [List.filterMap_cons, Event.launched?])
  | launched => exact .inr rfl
  | _ => exact .inl rfl

theorem discover_asksOnce (scanner : Scanner τ σ) (name line : String) (known : List Endpoint) :
    AsksOnce line (discover setup scanner name line known) := by
  unfold discover
  refine AsksOnce.after (shows_emit rfl) fun _ => ?_
  refine AsksOnce.after (shows_consult_of_partner (fun _ => rfl) _) fun here => ?_
  refine (spawn_asksOnce setup name line).before fun _ => ?_
  refine Shows.seq (shows_current.seq fun _ => shows_pure trivial) fun started => ?_
  refine shows_current.seq fun world => ?_
  exact (search_shows setup scanner name _ started world.patience.pauses).mono
    (fun _ hevent => hevent.launched?_eq_none) fun _ htrue => htrue

section Accepted

variable {name line : String} {world : World τ σ} {command : Command}
  (hfree : world.registry.tracks name = false) (hparse : Command.parse? line = some command)
  (hinstalled : setup.isInstalled command.executable = true)
include hfree hparse hinstalled

theorem launched_mem_spawn :
    .launched command.argv (allLaunchOptions world.processes.platform) ∈
      (spawn setup name line world).events := by
  have hlaunch : .launched command.argv (allLaunchOptions world.processes.platform) ∈
      (launchProcess command world).events := by
    rw [launchProcess, processes]
    exact List.mem_cons_self
  rw [spawn_of_accepted setup hfree hparse hinstalled]
  exact List.mem_cons_of_mem _ (mem_events_bind hlaunch _)

end Accepted

/-- A discovery takes stock of the endpoints before all else. -/
theorem surveyed_mem_discover (scanner : Scanner τ σ) (name line : String) (known : List Endpoint)
    (world : World τ σ) : .surveyed ∈ (discover setup scanner name line known world).events := by
  rw [discover, bind_apply, emit_apply]
  exact List.mem_cons_self

end Launch

/-! ### Starting -/

theorem shows_ofExcept {ω ε α : Type} {seen : ω → Prop} (result : Except ε α) :
    Shows seen (fun _ => True) (Action.ofExcept result : Action ω σ ε α) := by
  cases result with
  | ok a => exact shows_pure trivial
  | error failure => exact shows_raise failure

/-- What is seen of a start: a discovery, and the endpoint it has found. -/
def Event.IsOfStart : Event τ → Prop
  | .output _ => True
  | event => event.IsOfDiscovery

namespace Program

variable (program : Program) (setup : RunnerSetup Float (Desk Float)) (name line : String)

theorem start_of_discover (hdiscover : Flag.discover ∈ (splitFlags program.arguments).1) :
    program.start setup name line = (do
      let plan ← Action.ofExcept (ProbePlan.ofSettings program.settings none .null none)
      let endpoint ← discover setup (Scanner.ofSockets plan Desk.cursorSlot) name line []
      Action.emit (.output (name ++ ": " ++ endpoint.url))) := by
  rw [start, if_pos (List.contains_iff_mem.mpr hdiscover)]

theorem start_of_no_discover (hdiscover : Flag.discover ∉ (splitFlags program.arguments).1) :
    program.start setup name line = spawn setup name line := by
  rw [start, if_neg (fun hflag => hdiscover (List.contains_iff_mem.mp hflag))]

theorem start_asksOnce : AsksOnce line (program.start setup name line) := by
  by_cases hdiscover : Flag.discover ∈ (splitFlags program.arguments).1
  · rw [start_of_discover program setup name line hdiscover]
    refine AsksOnce.after (shows_ofExcept _) fun plan => ?_
    exact (discover_asksOnce setup _ name line []).before fun _ => shows_emit rfl
  · rw [start_of_no_discover program setup name line hdiscover]
    exact spawn_asksOnce setup name line

theorem start_mayLaunch : MayLaunch name (program.start setup name line) := by
  by_cases hdiscover : Flag.discover ∈ (splitFlags program.arguments).1
  · rw [start_of_discover program setup name line hdiscover]
    refine MayLaunch.after (keeps_ofExcept _) fun plan => ?_
    exact (discover_mayLaunch setup _ name line []).before fun _ => keeps_emit _
  · rw [start_of_no_discover program setup name line hdiscover]
    exact spawn_mayLaunch setup name line

theorem start_shows :
    Shows Event.IsOfStart (fun _ => True) (program.start setup name line) := by
  have hstart (event : Event Float) (hevent : event.IsOfDiscovery) : event.IsOfStart := by
    cases event <;> trivial
  by_cases hdiscover : Flag.discover ∈ (splitFlags program.arguments).1
  · rw [start_of_discover program setup name line hdiscover]
    refine Shows.seq (shows_ofExcept _) fun plan => Shows.seq ?_ fun _ => shows_emit trivial
    exact (discover_shows setup _ name line []).mono hstart fun _ htrue => htrue
  · rw [start_of_no_discover program setup name line hdiscover]
    exact (spawn_shows setup name line).mono
      (fun event hevent => hstart event hevent.isOfDiscovery) fun _ htrue => htrue

/-! ### Serving -/

/-- The note that the user has interrupted the waiting. -/
def interruptNote : Event Float :=
  .record ⟨.info, .program, "Interrupted, stopping background tasks."⟩

/-- What the program makes of the end of its start. -/
def verdict : Except (Failure Float) Unit → Except (Failure Float) Int
  | .ok _ => .ok 0
  | .error (.task _) => .ok 1
  | .error failure =>
    .error (if failure.isIn .task then .missingAttribute failure.className "kind" else failure)

/-- What is seen after the start until the block of the runner is left. -/
def epilogue : Except (Failure Float) Unit → List (Event Float)
  | .ok _ =>
    .record ⟨.info, .program, "Press Ctrl+C to stop."⟩ ::
      (List.replicate program.waits .waited ++ [.waited, interruptNote])
  | .error (.task cause) =>
    [.record ⟨.error, .program, "error[" ++ cause.kind ++ "]: " ++ cause.message⟩]
  | .error _ => []

theorem wait_apply (count : Nat) (world : World Float (Desk Float)) :
    wait count world = ⟨.ok (), world, List.replicate count .waited ++ [.waited]⟩ := by
  induction count with
  | zero => rfl
  | succ count ih =>
      rw [wait, bind_apply, emit_apply]
      dsimp only
      rw [ih]
      rfl

theorem serve_apply (world : World Float (Desk Float)) :
    program.serve setup name line world =
      let started := program.start setup name line world
      ⟨verdict started.result, started.state,
        started.events ++ program.epilogue started.result⟩ := by
  rw [serve, bind_apply, attempt_apply]
  dsimp only
  rcases hresult : (program.start setup name line world).result with failure | ⟨⟩
  · cases failure with
    | task cause => rfl
    | aborted _ | notice _ | process _ _ | system _ _ _ | other _ _ =>
        dsimp only [verdict, epilogue]
        split <;> rfl
  · simp [bind_apply, wait_apply, record, verdict, epilogue, interruptNote]

/-! ### Leaving -/

end Program

/-- What is seen on leaving the block of the runner. -/
def Event.IsOfParting : Event τ → Prop
  | .announced _ | .signalled _ _ | .polled _ | .partner _ | .record _ | .ignored _ => True
  | _ => False

section Parting

variable [Moment τ]

theorem Notice.isOfParting_of_mem_passEvents (notice : Notice τ σ) (strike : Int → Strike) :
    ∀ event ∈ notice.passEvents strike, event.IsOfParting := by
  have hpartner : ∀ event ∈ notice.outcome.events.map Event.partner, event.IsOfParting := by
    intro event hmem
    obtain ⟨partner, -, rfl⟩ := List.mem_map.mp hmem
    trivial
  have hwarnings : ∀ event ∈ notice.warnings, event.IsOfParting := by
    rcases notice.warnings_eq_nil_or with hnil | ⟨failure, hone⟩
    · rw [hnil]
      exact List.forall_mem_nil _
    · rw [hone]
      exact List.forall_mem_singleton.mpr trivial
  have hstrike : ∀ event ∈ (strike notice.task.pid).events notice.task,
      (event : Event τ).IsOfParting := by
    rcases strike notice.task.pid with _ | _ | _ | _ | _ | _ | _ <;>
      simp [Strike.events, Event.IsOfParting, absentNote, refusalNote, strikeWarning]
  rw [passEvents, events]
  refine List.forall_mem_append.mpr ⟨?_, ?_⟩
  · exact List.forall_mem_cons.mpr ⟨trivial, List.forall_mem_append.mpr ⟨hpartner, hwarnings⟩⟩
  · split
    · exact List.forall_mem_nil _
    · exact hstrike

theorem teardown_isOfParting (notifier : Notifier τ σ) (world : World τ σ) :
    ∀ event ∈ (teardown notifier world).events, event.IsOfParting := by
  have hdrop : ∀ event ∈ world.dropEvents notifier, event.IsOfParting := by
    intro event hmem
    obtain ⟨notice, -, hevent⟩ := List.mem_flatMap.mp hmem
    exact notice.isOfParting_of_mem_passEvents world.fate event hevent
  by_cases hempty : world.registry.tasks = []
  · rw [teardown_of_empty notifier hempty]
    exact List.forall_mem_nil _
  cases hdenied : world.scene.network.processesDenied with
  | true =>
      rw [teardown_of_denied notifier hempty hdenied]
      exact List.forall_mem_singleton.mpr trivial
  | false =>
      cases hfailure : passFailure? world.fate (world.notices notifier) with
      | some failure =>
          rw [teardown_of_failure notifier hdenied hfailure]
          exact List.forall_mem_cons.mpr ⟨trivial, List.forall_mem_cons.mpr ⟨trivial, hdrop⟩⟩
      | none =>
          have hpolled : ∀ event ∈ world.registry.tasks.map (Event.polled ·.pid),
              (event : Event τ).IsOfParting := by
            intro event hmem
            obtain ⟨task, -, rfl⟩ := List.mem_map.mp hmem
            trivial
          rw [teardown_of_completion notifier hempty hdenied hfailure]
          refine List.forall_mem_cons.mpr ⟨trivial, List.forall_mem_cons.mpr ⟨trivial, ?_⟩⟩
          refine List.forall_mem_append.mpr ⟨List.forall_mem_append.mpr ⟨hdrop, hpolled⟩, ?_⟩
          exact List.forall_mem_singleton.mpr trivial

theorem finalize_isOfParting (notifier : Notifier τ σ) (world : World τ σ) :
    ∀ event ∈ (finalize notifier world).events, event.IsOfParting := by
  rw [finalize_apply]
  refine List.forall_mem_append.mpr ⟨teardown_isOfParting notifier world, ?_⟩
  cases (teardown notifier world).result with
  | ok _ => exact List.forall_mem_nil _
  | error failure => exact List.forall_mem_singleton.mpr trivial

end Parting

namespace Program

variable (program : Program) (setup : RunnerSetup Float (Desk Float)) (name line : String)

/-! ### Supervising -/

/-- The world in which a runner begins: on the same host, with nothing registered. -/
def opened (world : World Float (Desk Float)) : World Float (Desk Float) :=
  { world with
    registry := Registry.empty
    scene := { world.scene with desk := Desk.cursorSlot.put 0 world.scene.desk } }

/-- The world in which the block of the runner is left, where children may have ended. -/
def closing (world : World Float (Desk Float)) : World Float (Desk Float) :=
  { world with processes := world.processes.lapse program.exits }

/-- How the start of the program has ended, where the program gets to it. -/
def startResult? (world : World Float (Desk Float)) : Option (Except (Failure Float) Unit) :=
  match program.task?, NoticeTarget.ofSettings program.settings none none with
  | some (name, line), .ok target =>
    some (program.start (program.runnerSetup target) name line (opened world)).result
  | _, _ => none

theorem part_apply (notifier : Notifier Float (Desk Float)) (served : Except (Failure Float) Int)
    (world : World Float (Desk Float)) :
    program.part notifier served world =
      let torn := teardown notifier (program.closing world)
      let dropped := finalize notifier torn.state
      ⟨match torn.result with
        | .error failure => .error failure
        | .ok _ => served,
        dropped.state, torn.events ++ dropped.events⟩ := by
  have hfinal : (finalize notifier (teardown notifier (program.closing world)).state).result =
      .ok () := by
    rw [finalize_apply]
  have hbegin : program.part notifier served world =
      ((teardown notifier).attempt >>= fun torn => do
        finalize notifier
        match torn with
        | .error failure => Action.raise failure
        | .ok _ => Action.ofExcept served) (program.closing world) := rfl
  rw [hbegin, bind_apply, attempt_apply]
  dsimp only
  rw [bind_apply, hfinal]
  cases (teardown notifier (program.closing world)).result with
  | error failure => simp
  | ok _ => cases served <;> simp [Action.ofExcept, Action.pure]

theorem supervise_of_no_target {failure : Failure Float}
    (htarget : NoticeTarget.ofSettings program.settings none none = .error failure)
    (world : World Float (Desk Float)) :
    program.supervise name line world = ⟨.error failure, world, []⟩ := by
  rw [supervise, htarget]
  rfl

theorem supervise_apply {target : NoticeTarget Float}
    (htarget : NoticeTarget.ofSettings program.settings none none = .ok target)
    (world : World Float (Desk Float)) :
    program.supervise name line world =
      let setup := program.runnerSetup target
      let started := program.start setup name line (opened world)
      let torn := teardown setup.notifier (program.closing started.state)
      let dropped := finalize setup.notifier torn.state
      ⟨match torn.result with
        | .error failure => .error failure
        | .ok _ => verdict started.result,
        dropped.state,
        started.events ++ program.epilogue started.result ++ (torn.events ++ dropped.events)⟩ := by
  have hbegin : program.supervise name line world =
      ((program.serve (program.runnerSetup target) name line).attempt >>=
        program.part (program.runnerSetup target).notifier) (opened world) := by
    rw [supervise, htarget]
    rfl
  rw [hbegin, bind_apply, attempt_apply, serve_apply]
  dsimp only
  rw [part_apply]

/-! ### Running -/

/-- A run in which the program gets as far as to start its task. -/
structure Begins (world : World Float (Desk Float)) (journal : Journal) (report : Report) where
  level : Int
  ready : Journal
  name : String
  line : String
  target : NoticeTarget Float
  level_eq : program.consoleLevel = .ok level
  ready_eq : journal.setUp level none (program.settings.value .logFile) = (.ok (), ready)
  task_eq : program.task? = some (name, line)
  target_eq : NoticeTarget.ofSettings program.settings none none = .ok target
  result_eq : report.result = (program.supervise name line world).result
  events_eq : report.events = (program.supervise name line world).events
  journal_eq : report.journal = report.events.foldl Journal.observe ready
  world_eq : report.world = (program.supervise name line world).state

/-- A run that ends before: without a task, or by a failure. -/
structure Idles (world : World Float (Desk Float)) (report : Report) : Prop where
  events : report.events = []
  world : report.world = world
  result : (∃ failure, report.result = .error failure) ∨
    program.task? = none ∧ report.result = .ok 2

section Ready

variable {level : Int} (hlevel : program.consoleLevel = .ok level) {journal ready : Journal}
  (hready : journal.setUp level none (program.settings.value .logFile) = (.ok (), ready))
include hlevel hready

/-- With its journal set up, the program runs its task if it has one. -/
theorem run_of_ready (world : World Float (Desk Float)) :
    program.run world journal = match program.task? with
      | none => ⟨.ok 2, [], ready.print [Text.rowOf usage], world⟩
      | some (name, line) =>
        let outcome := program.supervise name line world
        ⟨outcome.result, outcome.events, outcome.events.foldl Journal.observe ready,
          outcome.state⟩ := by
  rw [run, hlevel]
  dsimp only
  generalize journal.setUp level none (program.settings.value .logFile) = prepared at hready ⊢
  subst hready
  rfl

/-- A program whose journal is set up and that has a task and a target gets as far. -/
def Begins.ofReady (htask : program.task? = some (name, line)) {target : NoticeTarget Float}
    (htarget : NoticeTarget.ofSettings program.settings none none = .ok target)
    (world : World Float (Desk Float)) :
    program.Begins world journal (program.run world journal) where
  level := level
  ready := ready
  name := name
  line := line
  target := target
  level_eq := hlevel
  ready_eq := hready
  task_eq := htask
  target_eq := htarget
  result_eq := by rw [run_of_ready program hlevel hready, htask]
  events_eq := by rw [run_of_ready program hlevel hready, htask]
  journal_eq := by rw [run_of_ready program hlevel hready, htask]
  world_eq := by rw [run_of_ready program hlevel hready, htask]

end Ready

theorem run_cases (world : World Float (Desk Float)) (journal : Journal) :
    program.Idles world (program.run world journal) ∨
      Nonempty (program.Begins world journal (program.run world journal)) := by
  cases hlevel : program.consoleLevel with
  | error failure =>
      rw [run, hlevel]
      exact .inl ⟨rfl, rfl, .inl ⟨failure, rfl⟩⟩
  | ok level =>
      rcases hready : journal.setUp level none (program.settings.value .logFile) with
        ⟨failure | ⟨⟩, ready⟩
      · rw [run, hlevel]
        dsimp only
        rw [hready]
        exact .inl ⟨rfl, rfl, .inl ⟨failure, rfl⟩⟩
      rcases htask : program.task? with _ | ⟨name, line⟩
      · rw [run_of_ready program hlevel hready, htask]
        exact .inl ⟨rfl, rfl, .inr ⟨htask, rfl⟩⟩
      cases htarget : NoticeTarget.ofSettings program.settings none none with
      | error failure =>
          rw [run_of_ready program hlevel hready, htask]
          dsimp only
          rw [supervise_of_no_target program name line htarget]
          exact .inl ⟨rfl, rfl, .inl ⟨failure, rfl⟩⟩
      | ok target => exact .inr ⟨.ofReady program name line hlevel hready htask htarget world⟩

theorem mem_epilogue {result : Except (Failure Float) Unit} {event : Event Float}
    (hmem : event ∈ program.epilogue result) :
    event = .waited ∨ ∃ written, event = .record written := by
  unfold epilogue at hmem
  split at hmem
  · simp only [interruptNote, List.mem_cons, List.mem_append, List.mem_replicate,
      List.not_mem_nil, or_false] at hmem
    rcases hmem with rfl | ⟨-, rfl⟩ | rfl | rfl
    · exact .inr ⟨_, rfl⟩
    · exact .inl rfl
    · exact .inl rfl
    · exact .inr ⟨_, rfl⟩
  · exact .inr ⟨_, List.mem_singleton.mp hmem⟩
  · cases hmem

namespace Begins

variable {program} {world : World Float (Desk Float)} {journal : Journal} {report : Report}

/-- The start of the task, with all that came of it. -/
def started (begins : program.Begins world journal report) :
    Outcome (Event Float) (World Float (Desk Float)) (Failure Float) Unit :=
  program.start (program.runnerSetup begins.target) begins.name begins.line (opened world)

/-- The teardown on leaving the block. -/
def torn (begins : program.Begins world journal report) :
    Outcome (Event Float) (World Float (Desk Float)) (Failure Float) Unit :=
  teardown (program.runnerSetup begins.target).notifier (program.closing begins.started.state)

/-- The teardown of the runner that is dropped behind the block. -/
def dropped (begins : program.Begins world journal report) :
    Outcome (Event Float) (World Float (Desk Float)) (Failure Float) Unit :=
  finalize (program.runnerSetup begins.target).notifier begins.torn.state

variable (begins : program.Begins world journal report)

theorem supervise_eq :
    program.supervise begins.name begins.line world =
      ⟨match begins.torn.result with
        | .error failure => .error failure
        | .ok _ => verdict begins.started.result,
        begins.dropped.state,
        begins.started.events ++ program.epilogue begins.started.result ++
          (begins.torn.events ++ begins.dropped.events)⟩ :=
  supervise_apply program begins.name begins.line begins.target_eq world

theorem events_split : ∃ last, (∀ event ∈ last, event.IsOfParting) ∧
    report.events =
      begins.started.events ++ program.epilogue begins.started.result ++ last := by
  refine ⟨begins.torn.events ++ begins.dropped.events, ?_, ?_⟩
  · exact List.forall_mem_append.mpr ⟨teardown_isOfParting _ _, finalize_isOfParting _ _⟩
  · rw [begins.events_eq, supervise_eq]

/-- What is seen neither of waiting nor of leaving is seen of the start. -/
theorem mem_started {event : Event Float} (hmem : event ∈ report.events)
    (hparting : ¬ event.IsOfParting) (hwaited : event ≠ .waited) :
    event ∈ begins.started.events := by
  obtain ⟨last, hlast, hevents⟩ := begins.events_split
  rw [hevents, List.mem_append, List.mem_append] at hmem
  rcases hmem with (hstarted | hepilogue) | hmem
  · exact hstarted
  · rcases mem_epilogue program hepilogue with hevent | ⟨written, rfl⟩
    · exact absurd hevent hwaited
    · exact absurd trivial hparting
  · exact absurd (hlast event hmem) hparting

theorem mem_of_started {event : Event Float} (hmem : event ∈ begins.started.events) :
    event ∈ report.events := by
  obtain ⟨last, -, hevents⟩ := begins.events_split
  rw [hevents, List.append_assoc]
  exact List.mem_append_left _ hmem

/-- However the run goes on, the host is asked for a process at most once. -/
theorem asksOnce : report.events.filterMap Event.launched? = [] ∨
    report.events.filterMap Event.launched? = [wordsOf begins.line] := by
  obtain ⟨last, hlast, hevents⟩ := begins.events_split
  have hepilogue : (program.epilogue begins.started.result).filterMap Event.launched? = [] := by
    refine filterMap_launched?_eq_nil fun event hmem => ?_
    rcases mem_epilogue program hmem with rfl | ⟨written, rfl⟩ <;> rfl
  have hparting : last.filterMap Event.launched? = [] := by
    refine filterMap_launched?_eq_nil fun event hmem => ?_
    have hevent := hlast event hmem
    cases event <;> first | rfl | exact hevent.elim
  rw [hevents, List.filterMap_append, List.filterMap_append, hepilogue, hparting, List.append_nil,
    List.append_nil]
  exact start_asksOnce program _ begins.name begins.line (opened world)

end Begins

end Program

end SubgraphLauncher
