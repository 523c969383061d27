import SubgraphLauncher.Proofs.Discovery.Turn
import SubgraphLauncher.Proofs.Session.Launch
import SubgraphLauncher.Proofs.Teardown.Deeds

/-!
# What a discovery leaves behind

A discovery goes one of three ways: its survey fails, its launch fails, or it searches. The search
has many ways to end, and no bound on how often it scans and pauses first, but the book of the
runner is settled before it begins. So whatever becomes of a discovery can be read off its launch,
and the launch off the world that the survey leaves.
-/

namespace SubgraphLauncher

open SubgraphLauncher.Action RunnerAction

variable {τ σ : Type}

/-- The world in which a discovery has taken stock. -/
def World.surveyed (world : World τ σ) (scanner : Scanner τ σ) : World τ σ :=
  { world with scene := (scanner.survey world.scene).state }

/-- What is seen of taking stock. -/
def surveyEvents (scanner : Scanner τ σ) (world : World τ σ) : List (Event τ) :=
  .surveyed :: (scanner.survey world.scene).events.map .partner

theorem surveyEvents_launched?_eq_none (scanner : Scanner τ σ) (world : World τ σ) :
    ∀ event ∈ surveyEvents scanner world, event.launched? = none :=
  List.forall_mem_cons.mpr ⟨rfl, List.forall_mem_map.mpr fun _ _ => rfl⟩

/-- Neither a scan nor a pause, and the chooser is not asked. -/
def Event.IsBeforeSearch : Event τ → Prop
  | .scanned _ | .slept _ | .asked _ => False
  | _ => True

theorem Event.IsOfLaunch.isBeforeSearch {event : Event τ} (hevent : event.IsOfLaunch) :
    event.IsBeforeSearch := by
  cases event <;> trivial

theorem surveyEvents_isBeforeSearch (scanner : Scanner τ σ) (world : World τ σ) :
    ∀ event ∈ surveyEvents scanner world, event.IsBeforeSearch :=
  List.forall_mem_cons.mpr ⟨trivial, List.forall_mem_map.mpr fun _ _ => trivial⟩

theorem Event.IsOfSearch.launched?_eq_none {event : Event τ} (hevent : event.IsOfSearch) :
    event.launched? = none := by
  cases event <;> first | rfl | exact hevent.elim

theorem Event.IsOfDiscovery.isDeed_eq_false {event : Event τ} (hevent : event.IsOfDiscovery) :
    event.isDeed = false := by
  cases event <;> first | rfl | exact hevent.elim

section Ways

variable [Moment τ] (setup : RunnerSetup τ σ) (scanner : Scanner τ σ) (name line : String)
  (known : List Endpoint) {world : World τ σ}

theorem prepare_of_no_survey {failure : Failure τ}
    (hsurvey : (scanner.survey world.scene).result = .error failure) :
    prepare setup scanner name line world =
      ⟨.error failure, world.surveyed scanner, surveyEvents scanner world⟩ := by
  have hconsult : (consult scanner.survey world).result = .error failure := hsurvey
  rw [prepare, bind_apply, emit_apply]
  dsimp only
  rw [bind_apply, hconsult]
  rfl

theorem prepare_of_survey {here : List Endpoint}
    (hsurvey : (scanner.survey world.scene).result = .ok here) :
    prepare setup scanner name line world =
      ⟨(spawn setup name line (world.surveyed scanner)).result.map fun _ => here,
        (spawn setup name line (world.surveyed scanner)).state,
        surveyEvents scanner world ++ (spawn setup name line (world.surveyed scanner)).events⟩ := by
  have hconsult : (consult scanner.survey world).result = .ok here := hsurvey
  rw [prepare, bind_apply, emit_apply]
  dsimp only
  rw [bind_apply, hconsult]
  dsimp only
  rw [bind_pure_apply]
  rfl

theorem prepare_of_no_launch {here : List Endpoint} {failure : Failure τ}
    (hsurvey : (scanner.survey world.scene).result = .ok here)
    (hattempt : (spawn setup name line (world.surveyed scanner)).result = .error failure) :
    prepare setup scanner name line world =
      ⟨.error failure, world.surveyed scanner,
        surveyEvents scanner world ++ (spawn setup name line (world.surveyed scanner)).events⟩ := by
  rw [prepare_of_survey setup scanner name line hsurvey]
  rcases spawn_cases setup name line (world.surveyed scanner) with
    ⟨_, _, hstate⟩ | ⟨_, hresult, _⟩
  · rw [hattempt, hstate]
    rfl
  · cases hresult.symm.trans hattempt

theorem prepare_of_launch {here : List Endpoint}
    (hsurvey : (scanner.survey world.scene).result = .ok here)
    (hattempt : (spawn setup name line (world.surveyed scanner)).result = .ok ()) :
    prepare setup scanner name line world =
      ⟨.ok here, (world.surveyed scanner).launched name,
        surveyEvents scanner world ++ (spawn setup name line (world.surveyed scanner)).events⟩ := by
  rw [prepare_of_survey setup scanner name line hsurvey]
  rcases spawn_cases setup name line (world.surveyed scanner) with
    ⟨_, hresult, _⟩ | ⟨_, _, hstate⟩
  · cases hresult.symm.trans hattempt
  · rw [hattempt, hstate]
    rfl

/-- What a search does is seen behind the launch, and never touches the book. -/
theorem exists_search_of_prepared {here : List Endpoint}
    (hprepared : (prepare setup scanner name line world).result = .ok here) :
    let prepared := prepare setup scanner name line world
    let run := discover setup scanner name line known world
    run.state.book = prepared.state.book ∧
      ∃ later, run.events = prepared.events ++ later ∧ ∀ event ∈ later, event.IsOfSearch := by
  intro prepared run
  let loop := search setup scanner name (baselineOf here known) prepared.state.scene.network.now
    prepared.state.patience.pauses
  have hrun : run = ⟨(loop prepared.state).result, (loop prepared.state).state,
      prepared.events ++ (loop prepared.state).events⟩ := by
    change discover setup scanner name line known world = _
    rw [discover_eq, bind_apply, hprepared]
    rfl
  rw [hrun]
  refine ⟨search_keeps (undisturbed_book setup scanner) name _ _ _ _, _, rfl, ?_⟩
  exact (search_shows setup scanner name _ _ _ _).1

/-- However a discovery ends, its book is that of its launch. If the survey fails, the host is not
asked. If the launch fails, neither the scanner nor the chooser is asked any more, and there is no
pause. Otherwise there is one more child and one more task for it, whatever the search comes to. -/
theorem discover_footprint (world : World τ σ) :
    let survey := scanner.survey world.scene
    let attempt := spawn setup name line (world.surveyed scanner)
    let run := discover setup scanner name line known world
    (∀ failure, survey.result = .error failure →
      run = ⟨.error failure, world.surveyed scanner, surveyEvents scanner world⟩ ∧
        run.state.book = world.book ∧ run.events.filterMap Event.launched? = []) ∧
    (∀ here failure, survey.result = .ok here → attempt.result = .error failure →
      run = ⟨.error failure, world.surveyed scanner,
          surveyEvents scanner world ++ attempt.events⟩ ∧
        run.state.book = world.book ∧ ∀ event ∈ run.events, event.IsBeforeSearch) ∧
    (∀ here, survey.result = .ok here → attempt.result = .ok () →
      (∃ pid,
        run.state.registry = { world.registry with
          tasks := world.registry.tasks ++ [⟨name, pid, world.processes.children.length⟩] } ∧
        run.state.processes.children = world.processes.children ++ [⟨pid, none, false, false⟩]) ∧
      (∃ later, run.events = surveyEvents scanner world ++ attempt.events ++ later) ∧
      run.events.filterMap Event.launched? = [wordsOf line]) ∧
    ∀ event ∈ run.events, event.isDeed = false := by
  have hseen := (discover_shows setup scanner name line known world).1
  refine ⟨?_, ?_, ?_, fun event hmem => (hseen event hmem).isDeed_eq_false⟩
  · intro failure hsurvey
    have hprepare := prepare_of_no_survey setup scanner name line hsurvey
    rw [discover_of_unprepared setup scanner name line known (congrArg (·.result) hprepare),
      hprepare]
    exact ⟨rfl, rfl, filterMap_launched?_eq_nil (surveyEvents_launched?_eq_none scanner world)⟩
  · intro here failure hsurvey hattempt
    have hprepare := prepare_of_no_launch setup scanner name line hsurvey hattempt
    rw [discover_of_unprepared setup scanner name line known (congrArg (·.result) hprepare),
      hprepare]
    refine ⟨rfl, rfl, List.forall_mem_append.mpr ⟨surveyEvents_isBeforeSearch scanner world, ?_⟩⟩
    exact fun event hmem => ((spawn_shows setup name line _).1 event hmem).isBeforeSearch
  · intro here hsurvey hattempt
    have hprepare := prepare_of_launch setup scanner name line hsurvey hattempt
    have hasked := spawn_asks_of_ok setup hattempt
    obtain ⟨hbook, later, hevents, hlater⟩ := exists_search_of_prepared setup scanner name line
      known (congrArg (·.result) hprepare)
    rw [hprepare] at hbook hevents
    obtain ⟨hregistry, hprocesses⟩ := Prod.mk.inj hbook
    refine ⟨⟨world.processes.launch.1, hregistry, ?_⟩, ⟨later, hevents⟩, ?_⟩
    · rw [hprocesses]
      exact world.processes.launch_children
    · rw [hevents, List.filterMap_append, List.filterMap_append, hasked,
        filterMap_launched?_eq_nil (surveyEvents_launched?_eq_none scanner world),
        filterMap_launched?_eq_nil fun event hmem => (hlater event hmem).launched?_eq_none]
      rfl

end Ways

end SubgraphLauncher
