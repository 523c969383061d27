import SubgraphLauncher.Proofs.Frame
import SubgraphLauncher.Proofs.Session.Attempt
import SubgraphLauncher.Runner.Discover

/-!
# What a launch writes into the book

A launch either fails and leaves the book as it was, or the host has one more child and the runner
one more task, which stands for that child. A discovery does what its launch does. All that comes
before and behind the launch, with every way in which it can fail or be interrupted, goes on outside
of the book.
-/

namespace SubgraphLauncher

open SubgraphLauncher.Action RunnerAction

variable {τ σ : Type}

/-- One child was launched and registered under a name that was free. -/
structure Launched (name : String) (before after : World τ σ) : Prop where
  free : before.registry.tracks name = false
  tasks : after.registry.tasks = before.registry.tasks ++ [before.nextTask name]
  processes : after.processes = before.processes.launch.2

theorem Processes.launch_signalFaults (processes : Processes τ) :
    processes.launch.2.signalFaults = processes.signalFaults := by
  unfold launch
  split <;> rfl

/-- An action that leaves the book as it was, or launches one child under a name. -/
def MayLaunch {α : Type} (name : String) (x : RunnerAction τ σ α) : Prop :=
  ∀ world, (x world).state.book = world.book ∨ Launched name world (x world).state

theorem Launched.congr {name : String} {before before' after after' : World τ σ}
    (hbefore : before'.book = before.book) (hafter : after'.book = after.book)
    (hlaunched : Launched name before after) : Launched name before' after' := by
  simp only [World.book, Prod.mk.injEq] at hbefore hafter
  obtain ⟨hregistry, hprocesses⟩ := hbefore
  obtain ⟨hregistry', hprocesses'⟩ := hafter
  constructor
  · rw [hregistry]
    exact hlaunched.free
  · rw [hregistry', hlaunched.tasks, World.nextTask, World.nextTask, hregistry, hprocesses]
  · rw [hprocesses', hlaunched.processes, hprocesses]

section MayLaunch

variable {α β : Type} {name : String} {x : RunnerAction τ σ α} {f : α → RunnerAction τ σ β}

theorem MayLaunch.before (hx : MayLaunch name x) (hf : ∀ a, Keeps World.book (f a)) :
    MayLaunch name (x >>= f) := by
  intro world
  have hkept : ((x >>= f) world).state.book = (x world).state.book := view_bind hf x world
  rcases hx world with hbook | hlaunched
  · exact .inl (hkept.trans hbook)
  · exact .inr (hlaunched.congr rfl hkept)

theorem MayLaunch.after (hx : Keeps World.book x) (hf : ∀ a, MayLaunch name (f a)) :
    MayLaunch name (x >>= f) := by
  intro world
  have hkept : (x world).state.book = world.book := hx world
  rw [bind_apply]
  cases (x world).result with
  | error failure => exact .inl hkept
  | ok a =>
      rcases hf a (x world).state with hbook | hlaunched
      · exact .inl (hbook.trans hkept)
      · exact .inr (hlaunched.congr hkept.symm rfl)

end MayLaunch

/-! ### The launch itself -/

theorem Launched.of_free {name : String} {world : World τ σ}
    (hfree : name ∉ world.registry.names) : Launched name world (world.launched name) where
  free := Bool.eq_false_iff.mpr (Registry.tracks_iff.not.mpr hfree)
  tasks := rfl
  processes := rfl

section Launch

variable [Moment τ] (setup : RunnerSetup τ σ)

theorem spawn_mayLaunch (name line : String) : MayLaunch name (spawn setup name line) := by
  intro world
  rcases spawn_cases setup name line world with ⟨_, _, hstate⟩ | ⟨hfree, _, hstate⟩ <;> rw [hstate]
  · exact .inl rfl
  · exact .inr (Launched.of_free hfree)

/-- A launch happens outside of the scene. -/
theorem spawn_keeps_scene (name line : String) :
    Keeps World.scene (spawn setup name line) := by
  intro world
  rcases spawn_cases setup name line world with ⟨_, _, hstate⟩ | ⟨_, _, hstate⟩ <;> rw [hstate]
  rfl

end Launch

/-! ### What goes on around it -/

section Search

variable [Moment τ] (setup : RunnerSetup τ σ) {γ : Type} {view : World τ σ → γ}

theorem pick_keeps {chooser : Chooser τ σ}
    (hchooser : ∀ candidates, Keeps view (consult (chooser.choose candidates)))
    (candidates : List Endpoint) : Keeps view (pick chooser candidates) := by
  unfold pick
  split
  · exact keeps_pure none
  · exact keeps_pure _
  · refine (keeps_record _ _ _).bind fun _ => (keeps_emit _).bind fun _ => ?_
    refine (hchooser _).attempt.bind fun answer => ?_
    cases answer with
    | error failure =>
        dsimp only
        split
        · exact (keeps_record _ _ _).bind fun _ => keeps_pure none
        · split
          · exact (keeps_record _ _ _).bind fun _ => keeps_pure none
          · exact keeps_raise failure
    | ok index =>
        dsimp only
        split
        · exact keeps_pure _
        · exact (keeps_record _ _ _).bind fun _ => keeps_pure none

/-- A view of the world in which neither partners nor pauses show. -/
structure Undisturbed (setup : RunnerSetup τ σ) (scanner : Scanner τ σ) (view : World τ σ → γ) :
    Prop where
  survey : Keeps view (consult scanner.survey)
  scan : ∀ known, Keeps view (consult (scanner.scan known))
  choose : ∀ candidates, Keeps view (consult (setup.chooser.choose candidates))
  count : ∀ world paused, view { world with paused } = view world
  pass : ∀ duration, Keeps view (RunnerAction.pass duration)

theorem undisturbed_book (scanner : Scanner τ σ) : Undisturbed setup scanner World.book where
  survey := keeps_consult _
  scan _ := keeps_consult _
  choose _ := keeps_consult _
  count _ _ := rfl
  pass := keeps_pass

theorem remainingTime_keeps (timeout : Option τ) (started : τ) :
    Keeps view (remainingTime timeout started : RunnerAction τ σ τ) := by
  unfold remainingTime
  refine keeps_now.bind fun now => ?_
  cases timeout with
  | none => exact keeps_raise _
  | some timeout => exact keeps_pure _

theorem nextPause_keeps (interval : Option τ) (remaining : τ) :
    Keeps view (nextPause interval remaining : RunnerAction τ σ τ) := by
  unfold nextPause
  cases interval with
  | none => exact keeps_raise _
  | some interval => exact keeps_pure _

theorem timeOut_keeps (name : String) : Keeps view (timeOut setup name) := by
  unfold timeOut
  cases setup.timeout with
  | none => exact keeps_raise _
  | some timeout => exact (keeps_record _ _ _).bind fun _ => keeps_fail _

variable {setup} {scanner : Scanner τ σ} (hview : Undisturbed setup scanner view)
include hview

theorem pause_keeps (duration : τ) (patient : Bool) :
    Keeps view (pause duration patient : RunnerAction τ σ Unit) := by
  unfold pause
  refine Keeps.unless fun _ => (keeps_emit _).bind fun _ => ?_
  refine Keeps.bind (keeps_change fun world => hview.count world _) fun _ => ?_
  exact keeps_current.bind fun world => Keeps.unless fun _ => hview.pass duration

theorem scanThen_keeps (name : String) (baseline : List Endpoint) (started : τ)
    {again : τ → RunnerAction τ σ Endpoint} (hagain : ∀ duration, Keeps view (again duration)) :
    Keeps view (scanThen setup scanner name baseline started again) := by
  unfold scanThen
  refine (keeps_emit _).bind fun _ => (hview.scan _).bind fun candidates => ?_
  refine (pick_keeps hview.choose candidates).bind fun picked => ?_
  cases picked with
  | some endpoint => exact (keeps_record _ _ _).bind fun _ => keeps_pure endpoint
  | none =>
      refine (remainingTime_keeps _ _).bind fun remaining => ?_
      split
      · exact timeOut_keeps setup name
      · exact (nextPause_keeps _ _).bind hagain

/-- However often it scans and pauses, and wherever it is interrupted. -/
theorem search_keeps (name : String) (baseline : List Endpoint) (started : τ) (pauses : Nat) :
    Keeps view (search setup scanner name baseline started pauses) := by
  induction pauses with
  | zero =>
      exact scanThen_keeps hview name baseline started fun duration =>
        (pause_keeps hview duration false).bind fun _ => keeps_raise _
  | succ pauses ih =>
      exact scanThen_keeps hview name baseline started fun duration =>
        (pause_keeps hview duration true).bind fun _ => ih

theorem discover_keeps (name line : String) (hspawn : Keeps view (spawn setup name line))
    (known : List Endpoint) : Keeps view (discover setup scanner name line known) := by
  unfold discover
  refine (keeps_emit _).bind fun _ => hview.survey.bind fun here => hspawn.bind fun _ => ?_
  refine keeps_now.bind fun started => keeps_current.bind fun world => ?_
  exact search_keeps hview name _ started world.patience.pauses

omit hview

/-- Only the launch in the middle touches the book. -/
theorem discover_mayLaunch (setup : RunnerSetup τ σ) (scanner : Scanner τ σ) (name line : String)
    (known : List Endpoint) : MayLaunch name (discover setup scanner name line known) := by
  unfold discover
  refine MayLaunch.after (keeps_emit _) fun _ => MayLaunch.after (keeps_consult _) fun here => ?_
  refine (spawn_mayLaunch setup name line).before fun _ => ?_
  refine keeps_now.bind fun started => keeps_current.bind fun world => ?_
  exact search_keeps (undisturbed_book setup scanner) name _ started world.patience.pauses

end Search

end SubgraphLauncher
