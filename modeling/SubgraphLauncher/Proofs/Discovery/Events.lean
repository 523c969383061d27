import SubgraphLauncher.Proofs.Session.Attempt
import SubgraphLauncher.Proofs.Trace
import SubgraphLauncher.Runner.Discover

/-!
# What is seen of a discovery

Each part of a discovery has its own kinds of events. A launch shows the launch itself and records,
of which the runner's own are no errors; a choice shows what the chooser does and is asked, and
debug records; a search shows scans and pauses beside. None of them announces or signals anything.
-/

namespace SubgraphLauncher

open SubgraphLauncher.Action RunnerAction

variable {τ σ : Type}

namespace Event

def IsOfLaunch : Event τ → Prop
  | .launched _ _ => True
  | .record written => written.level = .info ∨ written.source = .launch
  | _ => False

def IsOfChoice : Event τ → Prop
  | .partner _ | .asked _ => True
  | .record written => written.level = .debug
  | _ => False

/-- What is seen between two scans, beside the choice. -/
def IsOfRest : Event τ → Prop
  | .slept _ | .record _ => True
  | _ => False

def IsOfSearch : Event τ → Prop
  | .scanned _ | .slept _ | .record _ => True
  | event => event.IsOfChoice

def IsOfDiscovery : Event τ → Prop
  | .surveyed | .launched _ _ => True
  | event => event.IsOfSearch

theorem IsOfChoice.isOfSearch {event : Event τ} (hevent : event.IsOfChoice) :
    event.IsOfSearch := by
  cases event <;> trivial

theorem IsOfRest.isOfSearch {event : Event τ} (hevent : event.IsOfRest) : event.IsOfSearch := by
  cases event <;> trivial

theorem IsOfSearch.isOfDiscovery {event : Event τ} (hevent : event.IsOfSearch) :
    event.IsOfDiscovery := by
  cases event <;> trivial

theorem IsOfLaunch.isOfDiscovery {event : Event τ} (hevent : event.IsOfLaunch) :
    event.IsOfDiscovery := by
  cases event <;> trivial

end Event

section Seen

variable [Moment τ] (setup : RunnerSetup τ σ)

theorem spawn_shows (name line : String) :
    Shows Event.IsOfLaunch (fun _ => True) (spawn setup name line) := by
  intro world
  refine ⟨?_, fun _ _ => trivial⟩
  have hattempt := spawn_attempt setup name line world
  generalize wordsOf line = argv, spawn setup name line world = run at hattempt ⊢
  cases hattempt with
  | failed =>
      refine List.forall_mem_cons.mpr ⟨.inl rfl, List.forall_mem_cons.mpr ⟨trivial, ?_⟩⟩
      exact List.forall_mem_map.mpr fun _ hmem => .inr (source_of_mem_failedNotes hmem)
  | launched => simp [Event.IsOfLaunch]
  | _ => exact List.forall_mem_nil _

theorem candidateAt?_mem {candidates : List Endpoint} {index : Int} {endpoint : Endpoint}
    (hat : candidateAt? candidates index = some endpoint) : endpoint ∈ candidates := by
  unfold candidateAt? at hat
  split at hat
  · exact List.mem_of_getElem? hat
  · cases hat

/-- What is picked is one of the candidates. -/
theorem pick_shows (chooser : Chooser τ σ) (candidates : List Endpoint) :
    Shows Event.IsOfChoice (fun picked => ∀ endpoint, picked = some endpoint →
      endpoint ∈ candidates) (pick chooser candidates) := by
  have hnone : ∀ endpoint, none = some endpoint → endpoint ∈ candidates := by
    intro endpoint hsome
    cases hsome
  unfold pick
  split
  · exact shows_pure hnone
  · refine shows_pure fun endpoint hsome => ?_
    cases hsome
    exact List.mem_cons_self
  · refine Shows.seq (shows_emit rfl) fun _ => Shows.seq (shows_emit trivial) fun _ => ?_
    have hchoose : Shows Event.IsOfChoice (fun _ => True) (consult (chooser.choose candidates)) :=
      shows_consult_of_partner (fun _ => trivial) _
    refine hchoose.attempt.bind fun answer _ => ?_
    cases answer with
    | error failure =>
        dsimp only
        split
        · exact Shows.seq (shows_emit rfl) fun _ => shows_pure hnone
        · split
          · exact Shows.seq (shows_emit rfl) fun _ => shows_pure hnone
          · exact shows_raise failure
    | ok index =>
        dsimp only
        split
        · rename_i endpoint hat
          refine shows_pure fun other hsome => ?_
          cases hsome
          exact candidateAt?_mem hat
        · exact Shows.seq (shows_emit rfl) fun _ => shows_pure hnone

/-- Any events of a choice, and nothing about what is picked. -/
theorem pick_shows_choice (chooser : Chooser τ σ) (candidates : List Endpoint) :
    Shows Event.IsOfChoice (fun _ => True) (pick chooser candidates) :=
  (pick_shows chooser candidates).mono (fun _ hevent => hevent) fun _ _ => trivial

theorem pause_shows (duration : τ) (patient : Bool) :
    Shows Event.IsOfRest (fun _ => True) (pause duration patient : RunnerAction τ σ Unit) := by
  unfold pause
  refine Shows.unless fun _ => Shows.seq (shows_emit trivial) fun _ => ?_
  refine Shows.seq (shows_change _) fun _ => shows_current.seq fun world => ?_
  exact Shows.unless fun _ => shows_change _

theorem remainingTime_shows (timeout : Option τ) (started : τ) :
    Shows Event.IsOfRest (fun _ => True)
      (remainingTime timeout started : RunnerAction τ σ τ) := by
  have hnow : Shows Event.IsOfRest (fun _ => True) (now : RunnerAction τ σ τ) :=
    shows_current.seq fun _ => shows_pure trivial
  unfold remainingTime
  refine hnow.seq fun now => ?_
  cases timeout with
  | none => exact shows_raise _
  | some timeout => exact shows_pure trivial

theorem nextPause_shows (interval : Option τ) (remaining : τ) :
    Shows Event.IsOfRest (fun _ => True)
      (nextPause interval remaining : RunnerAction τ σ τ) := by
  unfold nextPause
  cases interval with
  | none => exact shows_raise _
  | some interval => exact shows_pure trivial

theorem timeOut_shows (name : String) {yields : Endpoint → Prop} :
    Shows Event.IsOfRest yields (timeOut setup name) := by
  unfold timeOut
  cases setup.timeout with
  | none => exact shows_raise _
  | some timeout => exact Shows.seq (shows_emit trivial) fun _ => shows_raise _

omit [Moment τ] in
theorem shows_search_of_rest {α : Type} {yields : α → Prop} {x : RunnerAction τ σ α}
    (hx : Shows Event.IsOfRest yields x) : Shows Event.IsOfSearch yields x :=
  hx.mono (fun _ => Event.IsOfRest.isOfSearch) fun _ hyields => hyields

theorem scanThen_shows (scanner : Scanner τ σ) (name : String) (baseline : List Endpoint)
    (started : τ) {again : τ → RunnerAction τ σ Endpoint}
    (hagain : ∀ duration, Shows Event.IsOfSearch (fun _ => True) (again duration)) :
    Shows Event.IsOfSearch (fun _ => True)
      (scanThen setup scanner name baseline started again) := by
  unfold scanThen
  refine Shows.seq (shows_emit trivial) fun _ => ?_
  refine Shows.seq (shows_consult_of_partner (fun _ => trivial) _) fun candidates => ?_
  have hpick := (pick_shows_choice setup.chooser candidates).mono
    (fun _ => Event.IsOfChoice.isOfSearch) fun _ htrue => htrue
  refine hpick.seq fun picked => ?_
  cases picked with
  | some endpoint => exact Shows.seq (shows_emit trivial) fun _ => shows_pure trivial
  | none =>
      refine (shows_search_of_rest (remainingTime_shows _ _)).seq fun remaining => ?_
      split
      · exact shows_search_of_rest (timeOut_shows setup name)
      · exact (shows_search_of_rest (nextPause_shows _ _)).seq hagain

theorem search_shows (scanner : Scanner τ σ) (name : String) (baseline : List Endpoint)
    (started : τ) (pauses : Nat) :
    Shows Event.IsOfSearch (fun _ => True)
      (search setup scanner name baseline started pauses) := by
  induction pauses with
  | zero =>
      exact scanThen_shows setup scanner name baseline started fun duration =>
        (shows_search_of_rest (pause_shows duration false)).seq fun _ => shows_raise _
  | succ pauses ih =>
      exact scanThen_shows setup scanner name baseline started fun duration =>
        (shows_search_of_rest (pause_shows duration true)).seq fun _ => ih

theorem discover_shows (scanner : Scanner τ σ) (name line : String) (known : List Endpoint) :
    Shows Event.IsOfDiscovery (fun _ => True) (discover setup scanner name line known) := by
  have hnow : Shows Event.IsOfDiscovery (fun _ => True) (now : RunnerAction τ σ τ) :=
    shows_current.seq fun _ => shows_pure trivial
  have hspawn := (spawn_shows setup name line).mono (fun _ => Event.IsOfLaunch.isOfDiscovery)
    fun _ htrue => htrue
  unfold discover
  refine Shows.seq (shows_emit trivial) fun _ => ?_
  refine Shows.seq (shows_consult_of_partner (fun _ => trivial) _) fun here => ?_
  refine hspawn.seq fun _ => ?_
  refine hnow.seq fun started => shows_current.seq fun world => ?_
  exact (search_shows setup scanner name _ started world.patience.pauses).mono
    (fun _ => Event.IsOfSearch.isOfDiscovery) fun _ htrue => htrue

end Seen

end SubgraphLauncher
