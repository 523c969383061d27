import SubgraphLauncher.Proofs.Scanning.Ports
import SubgraphLauncher.Proofs.Scanning.Probes

/-!
# The visits of a scan

A scan visits ports one after the other, as long as probing comes to a result and the deadline has
not come. `sweepPorts_apply` says what a sweep over ports is in terms of its visits: what it shows
and finds is theirs, and the cursor moves only where ports are left when the deadline has come.
-/

namespace SubgraphLauncher

open SubgraphLauncher.Action

variable {τ σ : Type}

/-- One port in a scan: the scene in which its turn comes, and what probing it does. -/
structure Visit (τ σ : Type) where
  port : Int
  scene : Scene τ σ
  outcome : Outcome (PartnerEvent τ) (Scene τ σ) (Failure τ) (Option Endpoint)

namespace Visit

def failure? (visit : Visit τ σ) : Option (Failure τ) :=
  match visit.outcome.result with
  | .ok _ => none
  | .error failure => some failure

def found (visit : Visit τ σ) : List Endpoint :=
  match visit.outcome.result with
  | .ok found => found.toList
  | .error _ => []

theorem exists_of_failure?_eq_none {visit : Visit τ σ} (hsound : visit.failure? = none) :
    ∃ found, visit.outcome.result = .ok found := by
  unfold failure? at hsound
  cases hresult : visit.outcome.result with
  | error failure =>
      rw [hresult] at hsound
      cases hsound
  | ok found => exact ⟨found, rfl⟩

theorem mem_found {visit : Visit τ σ} {endpoint : Endpoint} :
    endpoint ∈ visit.found ↔ visit.outcome.result = .ok (some endpoint) := by
  unfold found
  cases visit.outcome.result with
  | error failure => simp
  | ok found? => simp

/-- The visit has a result, and the deadline has not come. -/
def leavesTime [Moment τ] (deadline : τ) (visit : Visit τ σ) : Bool :=
  visit.outcome.result.isOk && !decide (deadline ≤ visit.outcome.state.network.now)

end Visit

/-- The scene that some visits leave behind. -/
def lastScene (scene : Scene τ σ) (visits : List (Visit τ σ)) : Scene τ σ :=
  (visits.getLast?.map (·.outcome.state)).getD scene

theorem lastScene_cons (scene : Scene τ σ) (visit : Visit τ σ) (visits : List (Visit τ σ)) :
    lastScene scene (visit :: visits) = lastScene visit.outcome.state visits := by
  unfold lastScene
  rw [List.getLast?_cons]
  cases visits.getLast? <;> rfl

section Sweep

variable [Moment τ]

namespace Sweep

def visit (sweep : Sweep τ) (port : Int) (scene : Scene τ σ) : Visit τ σ :=
  ⟨port, scene, probePort sweep.plan sweep.deadline (addressesOn sweep.addresses port) scene⟩

def visits (sweep : Sweep τ) : Scene τ σ → List Int → List (Visit τ σ)
  | _, [] => []
  | scene, port :: rest =>
    let visit := sweep.visit port scene
    visit :: if visit.leavesTime sweep.deadline then sweep.visits visit.outcome.state rest else []

/-- How a sweep over a number of ports ends with some visits: with the failure of a visit, or with
all that has been found. The cursor is put where ports are left. -/
def ending (sweep : Sweep τ) (cursor : Slot σ Nat) (probed count : Nat) (scene : Scene τ σ)
    (visits : List (Visit τ σ)) :
    Outcome (PartnerEvent τ) (Scene τ σ) (Failure τ) (List Endpoint) :=
  let behind := lastScene scene visits
  let events := visits.flatMap (·.outcome.events)
  match visits.findSome? Visit.failure? with
  | some failure => ⟨.error failure, behind, events⟩
  | none =>
    if visits.length < count then
      ⟨.ok (visits.flatMap (·.found)),
        { behind with desk := cursor.put (sweep.start + (probed + visits.length)) behind.desk },
        events ++ [.note .scanner (budgetNote sweep.budget (probed + visits.length) sweep.total)]⟩
    else ⟨.ok (visits.flatMap (·.found)), behind, events⟩

theorem ending_cons (sweep : Sweep τ) (cursor : Slot σ Nat) (probed count : Nat) (scene : Scene τ σ)
    {visit : Visit τ σ} {found : Option Endpoint} (hfound : visit.outcome.result = .ok found)
    (visits : List (Visit τ σ)) :
    sweep.ending cursor probed (count + 1) scene (visit :: visits) =
      let rest := sweep.ending cursor (probed + 1) count visit.outcome.state visits
      ⟨rest.result.map (found.toList ++ ·), rest.state, visit.outcome.events ++ rest.events⟩ := by
  have hnone : visit.failure? = none := by rw [Visit.failure?, hfound]
  have hlist : visit.found = found.toList := by rw [Visit.found, hfound]
  have hcount : visits.length + 1 < count + 1 ↔ visits.length < count := Nat.succ_lt_succ_iff
  have hprobed : probed + (visits.length + 1) = probed + 1 + visits.length := by omega
  unfold ending
  simp only [List.findSome?_cons, hnone, lastScene_cons, List.flatMap_cons, hlist,
    List.length_cons, hcount, hprobed]
  cases visits.findSome? Visit.failure? with
  | some failure => rfl
  | none =>
      dsimp only
      split <;> simp only [Except.map, List.append_assoc]

/-- What a sweep that comes to a result has found, and what it leaves behind. -/
theorem ending_of_ok {sweep : Sweep τ} {cursor : Slot σ Nat} {probed count : Nat}
    {scene : Scene τ σ} {visits : List (Visit τ σ)} {found : List Endpoint}
    (hfound : (sweep.ending cursor probed count scene visits).result = .ok found) :
    found = visits.flatMap (·.found) ∧ (∀ visit ∈ visits, visit.failure? = none) ∧
      (sweep.ending cursor probed count scene visits).state.desk =
        if visits.length < count then
          cursor.put (sweep.start + (probed + visits.length)) (lastScene scene visits).desk
        else (lastScene scene visits).desk := by
  unfold ending at hfound ⊢
  cases hfailure : visits.findSome? Visit.failure? with
  | some failure =>
      rw [hfailure] at hfound
      dsimp only at hfound
      cases hfound
  | none =>
      rw [hfailure] at hfound
      dsimp only at hfound ⊢
      refine ⟨?_, List.findSome?_eq_none_iff.mp hfailure, ?_⟩
      · split at hfound <;> exact (Except.ok.inj hfound).symm
      · split <;> rfl

end Sweep

theorem sweepPorts_of_failed {sweep : Sweep τ} {port : Int} {scene : Scene τ σ}
    {failure : Failure τ} (hfailed : (sweep.visit port scene).outcome.result = .error failure)
    (cursor : Slot σ Nat) (probed : Nat) (rest : List Int) :
    sweepPorts sweep cursor probed (port :: rest) scene =
      let outcome := (sweep.visit port scene).outcome
      ⟨.error failure, outcome.state, outcome.events⟩ := by
  have hprobe : (probePort sweep.plan sweep.deadline
      (addressesOn sweep.addresses port) scene).result = .error failure := hfailed
  unfold sweepPorts
  rw [bind_apply, hprobe]
  rfl

theorem sweepPorts_of_found {sweep : Sweep τ} {port : Int} {scene : Scene τ σ}
    {found : Option Endpoint} (hfound : (sweep.visit port scene).outcome.result = .ok found)
    (cursor : Slot σ Nat) (probed : Nat) (rest : List Int) :
    sweepPorts sweep cursor probed (port :: rest) scene =
      let outcome := (sweep.visit port scene).outcome
      if sweep.deadline ≤ outcome.state.network.now ∧ rest ≠ [] then
        ⟨.ok found.toList,
          { outcome.state with
            desk := cursor.put (sweep.start + (probed + 1)) outcome.state.desk },
          outcome.events ++ [.note .scanner (budgetNote sweep.budget (probed + 1) sweep.total)]⟩
      else
        let more := sweepPorts sweep cursor (probed + 1) rest outcome.state
        ⟨more.result.map (found.toList ++ ·), more.state, outcome.events ++ more.events⟩ := by
  have hprobe : (probePort sweep.plan sweep.deadline
      (addressesOn sweep.addresses port) scene).result = .ok found := hfound
  conv => lhs; unfold sweepPorts
  rw [bind_apply, hprobe]
  dsimp only
  rw [now_bind_apply]
  change _ = if sweep.deadline ≤ (probePort sweep.plan sweep.deadline
      (addressesOn sweep.addresses port) scene).state.network.now ∧ rest ≠ [] then _ else _
  split
  · rfl
  · rw [bind_pure_apply]
    rfl

theorem sweepPorts_apply (sweep : Sweep τ) (cursor : Slot σ Nat) (probed : Nat) (ports : List Int)
    (scene : Scene τ σ) :
    sweepPorts sweep cursor probed ports scene =
      sweep.ending cursor probed ports.length scene (sweep.visits scene ports) := by
  induction ports generalizing probed scene with
  | nil => rfl
  | cons port rest ih =>
      cases hresult : (sweep.visit port scene).outcome.result with
      | error failure =>
          have hstops : (sweep.visit port scene).leavesTime sweep.deadline = false := by
            rw [Visit.leavesTime, hresult]
            rfl
          have hfailure : (sweep.visit port scene).failure? = some failure := by
            rw [Visit.failure?, hresult]
          rw [sweepPorts_of_failed hresult, Sweep.visits, hstops, Sweep.ending,
            List.findSome?_cons, hfailure]
          simp [lastScene]
      | ok found =>
          rw [sweepPorts_of_found hresult, Sweep.visits, List.length_cons,
            Sweep.ending_cons _ _ _ _ _ hresult]
          by_cases hover : sweep.deadline ≤ (sweep.visit port scene).outcome.state.network.now
          · have hstops : (sweep.visit port scene).leavesTime sweep.deadline = false := by
              rw [Visit.leavesTime, decide_eq_true hover]
              exact Bool.and_false _
            rw [hstops]
            cases rest with
            | nil => simp [sweepPorts, Sweep.ending, lastScene]
            | cons next others => simp [hover, Sweep.ending, lastScene, Except.map]
          · have hgoesOn : (sweep.visit port scene).leavesTime sweep.deadline = true := by
              rw [Visit.leavesTime, hresult, decide_eq_false hover]
              rfl
            rw [hgoesOn, if_neg fun hcut => hover hcut.1, if_pos rfl, ih]

namespace Sweep

variable {sweep : Sweep τ} {scene : Scene τ σ} {ports : List Int}

theorem visits_ports (sweep : Sweep τ) (scene : Scene τ σ) (ports : List Int) :
    (sweep.visits scene ports).map (·.port) <+: ports := by
  induction ports generalizing scene with
  | nil => exact List.prefix_refl _
  | cons port rest ih =>
      unfold visits
      rw [List.map_cons]
      refine (List.prefix_cons_inj port).mpr ?_
      split
      · exact ih _
      · exact List.nil_prefix

theorem visits_ne_nil (hports : ports ≠ []) : sweep.visits scene ports ≠ [] := by
  cases ports with
  | nil => exact absurd rfl hports
  | cons port rest => exact List.cons_ne_nil _ _

/-- What holds when a scan begins, and behind every visit that leaves time, holds before every
visit. -/
theorem forall_visits (Fit : Scene τ σ → Prop) (hscene : Fit scene)
    (hfit : ∀ port scene, Fit scene → (sweep.visit port scene).leavesTime sweep.deadline →
      Fit (sweep.visit port scene).outcome.state) :
    ∀ visit ∈ sweep.visits scene ports,
      visit = sweep.visit visit.port visit.scene ∧ Fit visit.scene := by
  induction ports generalizing scene with
  | nil => exact List.forall_mem_nil _
  | cons port rest ih =>
      unfold visits
      refine List.forall_mem_cons.mpr ⟨⟨rfl, hscene⟩, ?_⟩
      split
      · rename_i hgoesOn
        exact ih (hfit port scene hscene hgoesOn)
      · exact List.forall_mem_nil _

theorem visit_timeless (port : Int) (scene : Scene τ σ) :
    (sweep.visit port scene).outcome.state.timeless = scene.timeless :=
  probePort_keeps sweep.plan sweep.deadline (addressesOn sweep.addresses port) scene

theorem visits_timeless :
    ∀ visit ∈ sweep.visits scene ports,
      visit = sweep.visit visit.port visit.scene ∧ visit.scene.timeless = scene.timeless := by
  exact forall_visits (fun later => later.timeless = scene.timeless) rfl
    fun port later hlater _ => (visit_timeless port later).trans hlater

theorem lastScene_timeless :
    (lastScene scene (sweep.visits scene ports)).timeless = scene.timeless := by
  unfold lastScene
  cases hlast : (sweep.visits scene ports).getLast? with
  | none => rfl
  | some last =>
      obtain ⟨hlast', hscene⟩ := visits_timeless last (List.mem_of_getLast? hlast)
      rw [Option.map_some, Option.getD_some, hlast', visit_timeless, hscene]

end Sweep

end Sweep

end SubgraphLauncher
