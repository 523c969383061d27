import SubgraphLauncher.Proofs.Program.Course
import SubgraphLauncher.Proofs.Scanning.Frame

/-!
# What the program's partners leave alone

Partners let time pass and keep notes on their desk, and that is all they change. So whatever the
network offers, at whatever time, it offers as well once the start is over: services that answer
now or later, processes that can be listed or not.
-/

namespace SubgraphLauncher

open SubgraphLauncher.Action RunnerAction

variable {τ σ α : Type}

section Offer

variable [Moment τ]

/-- The network but for its time. -/
def Scene.offer (scene : Scene τ σ) : Network τ := scene.timeless.network

theorem keeps_offer_of_timeless {x : PartnerAction τ σ α} (hx : Keeps Scene.timeless x) :
    Keeps Scene.offer x :=
  hx.comp Scene.network

theorem keeps_offer_of_network {x : PartnerAction τ σ α} (hx : Keeps Scene.network x) :
    Keeps Scene.offer x :=
  hx.comp fun network => { network with now := 0 }

theorem sweepPorts_keeps_offer (sweep : Sweep τ) (cursor : Slot σ Nat) (probed : Nat)
    (ports : List Int) : Keeps Scene.offer (sweepPorts sweep cursor probed ports) := by
  induction ports generalizing probed with
  | nil => exact keeps_pure _
  | cons port rest ih =>
      unfold sweepPorts
      refine (keeps_offer_of_timeless (probePort_keeps _ _ _)).bind fun found => ?_
      refine now_keeps.bind fun now => ?_
      split
      · refine (keeps_emit _).bind fun _ => ?_
        exact (keeps_offer_of_network (keep_keeps _ _)).bind fun _ => keeps_pure _
      · exact (ih _).bind fun _ => keeps_pure _

theorem scanSockets_keeps_offer (plan : ProbePlan τ) (cursor : Slot σ Nat)
    (known : List Endpoint) : Keeps Scene.offer (scanSockets plan cursor known) := by
  unfold scanSockets
  refine (originsOf_keeps _).bind fun origins => listening_keeps.bind fun sockets => ?_
  refine (uncovered_keeps _ _).bind fun addresses => ?_
  dsimp only
  split
  · exact keeps_pure _
  refine (fetch_keeps _).bind fun place => ?_
  split
  · exact keeps_raise _
  · refine now_keeps.bind fun now => ?_
    exact (sweepPorts_keeps_offer _ _ _ _).bind fun _ => keeps_pure _

theorem surveySockets_keeps_offer : Keeps Scene.offer (surveySockets : PartnerAction τ σ _) := by
  unfold surveySockets
  refine listening_keeps.bind fun sockets => ?_
  exact (Keeps.mapM (fun _ => requireEndpoint_keeps _) _).bind fun _ => keeps_pure _

omit [Moment τ] in
theorem showText_keeps {γ : Type} {view : Scene τ σ → γ} (text : String) :
    Keeps view (showText text : PartnerAction τ σ Unit) := by
  have hlines (lines : List (List Char)) :
      Keeps view (showText.showLines lines : PartnerAction τ σ Unit) := by
    induction lines with
    | nil => exact keeps_pure _
    | cons line rest ih => exact (keeps_emit _).bind fun _ => ih
  exact hlines _

omit [Moment τ] in
theorem showChoices_keeps {γ : Type} {view : Scene τ σ → γ} (number : Nat)
    (candidates : List Endpoint) :
    Keeps view (showChoices number candidates : PartnerAction τ σ Unit) := by
  induction candidates generalizing number with
  | nil => exact keeps_pure _
  | cons endpoint rest ih => exact (showText_keeps _).bind fun _ => ih _

theorem askChoice_keeps_network (slot : Slot σ (List (Reading τ))) (count : Nat)
    (readings : List (Reading τ)) :
    Keeps Scene.network (askChoice slot count readings : PartnerAction τ σ Nat) := by
  induction readings with
  | nil => exact (keeps_emit _).bind fun _ => keeps_raise _
  | cons reading rest ih =>
      unfold askChoice
      refine (keeps_emit _).bind fun _ => (keep_keeps _ _).bind fun _ => ?_
      cases reading with
      | failure failure => exact keeps_raise _
      | text line =>
          dsimp only
          split
          · exact keeps_pure _
          · exact keeps_raise _
          · exact (showText_keeps _).bind fun _ => (keeps_emit _).bind fun _ => ih

theorem onConsole_keeps_network (terminal : Terminal) (required : Bool)
    (slot : Slot σ (List (Reading τ))) (candidates : List Endpoint) :
    Keeps Scene.network ((Chooser.onConsole terminal required slot).choose candidates) := by
  have hchoose : Keeps Scene.network
      (chooseOnConsole terminal required slot candidates : PartnerAction τ σ Nat) := by
    unfold chooseOnConsole
    refine Keeps.unless fun _ => Keeps.unless fun _ => ?_
    refine (showText_keeps _).bind fun _ => (showChoices_keeps _ _).bind fun _ => ?_
    exact (fetch_keeps _).bind fun _ => askChoice_keeps_network _ _ _
  exact hchoose.bind fun _ => keeps_pure _

end Offer

namespace Program

variable (program : Program)

/-- What the network offers in a world. -/
def offerOf (world : World Float (Desk Float)) : Network Float := world.scene.offer

theorem undisturbed_offer (target : NoticeTarget Float) (plan : ProbePlan Float) :
    Undisturbed (program.runnerSetup target) (Scanner.ofSockets plan Desk.cursorSlot) offerOf where
  survey := keeps_consult_of_scene surveySockets_keeps_offer
  scan _ := keeps_consult_of_scene (scanSockets_keeps_offer _ _ _)
  choose _ := keeps_consult_of_scene (keeps_offer_of_network (onConsole_keeps_network _ _ _ _))
  count _ _ := rfl
  pass _ := keeps_change fun _ => rfl

theorem start_keeps_offer (target : NoticeTarget Float) (name line : String) :
    Keeps offerOf (program.start (program.runnerSetup target) name line) := by
  have hspawn : Keeps offerOf (spawn (program.runnerSetup target) name line) :=
    (spawn_keeps_scene (program.runnerSetup target) name line).comp Scene.offer
  by_cases hdiscover : Flag.discover ∈ (splitFlags program.arguments).1
  · rw [start_of_discover program _ name line hdiscover]
    refine (keeps_ofExcept _).bind fun plan => ?_
    refine Keeps.bind ?_ fun _ => keeps_emit _
    exact discover_keeps (program.undisturbed_offer target plan) name line hspawn []
  · rw [start_of_no_discover program _ name line hdiscover]
    exact hspawn

end Program

end SubgraphLauncher
