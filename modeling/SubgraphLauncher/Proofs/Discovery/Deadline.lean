import Mathlib.Data.Rat.Floor
import Mathlib.Tactic.FieldSimp
import Mathlib.Tactic.Linarith
import SubgraphLauncher.Proofs.Discovery.Turn
import SubgraphLauncher.Proofs.Scanning.Clock

/-!
# The deadline of a discovery

Time is exact here. A search has no counter: what bounds it is the time that is left when a scan
begins. A pause takes the whole interval of it, or all of it, and a scan takes none back; so after
as many pauses as there are intervals in the timeout no time is left, and the next scan is the last
one. No scan begins after the deadline, and each takes a limited time, which limits the end. A
search that nothing else ends gets there: it reports that time is up.
-/

namespace SubgraphLauncher

open SubgraphLauncher.Action RunnerAction

variable {σ : Type}

def Event.isScan {τ : Type} : Event τ → Bool
  | .scanned _ => true
  | _ => false

/-- What time does to a search: how often it scans, when it ends, and when it may say that time is
up. A scan may fail with a failure of a task, which then is no report of the search. -/
structure Quest.InTime (quest : Quest Rat σ) (left budget : Rat)
    (loop : Outcome (Event Rat) (World Rat σ) (Failure Rat) Endpoint) : Prop where
  scans : loop.events.countP Event.isScan ≤ ⌈left / quest.interval⌉₊ + 1
  ends : loop.state.scene.network.now ≤ quest.started + quest.timeout + budget
  reported : timeOutNote quest.name quest.timeout ∈ loop.events →
    quest.started + quest.timeout ≤ loop.state.scene.network.now
  raised : ∀ cause, loop.result = .error (.task cause) →
    timeOutNote quest.name quest.timeout ∈ loop.events ∨
      ∃ scene, (quest.scanner.scan quest.baseline scene).result = .error (.task cause)

/-- The user interrupts none of the next pauses. -/
def World.Uninterrupted {τ : Type} (pauses : Nat) (world : World τ σ) : Prop :=
  ∀ pause, world.patience.interruptAt = some pause →
    pause ≤ world.paused ∨ world.paused + pauses < pause

/-- The three ways in which a search can end by itself, if all scans begin in scenes of a kind. -/
inductive Quest.Settles (quest : Quest Rat σ) (Fit : Scene Rat σ → Prop) :
    Outcome (Event Rat) (World Rat σ) (Failure Rat) Endpoint → Prop
  | found {loop} (endpoint : Endpoint) (place : World Rat σ) (hfit : Fit place.scene)
      (hlook : (quest.look place).result = .ok (some endpoint))
      (hresult : loop.result = .ok endpoint) : quest.Settles Fit loop
  /-- The scanner or the chooser failed. -/
  | failed {loop} (failure : Failure Rat) (place : World Rat σ) (hfit : Fit place.scene)
      (hlook : (quest.look place).result = .error failure)
      (hresult : loop.result = .error failure) : quest.Settles Fit loop
  | timedOut {loop}
      (hresult : loop.result = .error (.task (.discoveryTimeout quest.name quest.timeout)))
      (hnote : timeOutNote quest.name quest.timeout ∈ loop.events) : quest.Settles Fit loop

/-! ### One turn -/

section Turn

/-- A pause leaves one interval less to come, counting up. -/
theorem ceil_after_pause {interval left remaining : Rat} (hinterval : 0 < interval)
    (hremaining : 0 < remaining) (hleft : remaining ≤ left) :
    ⌈(remaining - min interval remaining) / interval⌉₊ + 1 ≤ ⌈left / interval⌉₊ := by
  rcases le_total interval remaining with hshort | hlong
  · have hsplit : remaining / interval = (remaining - interval) / interval + 1 := by
      field_simp
      ring
    have hnonneg : 0 ≤ (remaining - interval) / interval :=
      div_nonneg (sub_nonneg.mpr hshort) hinterval.le
    rw [min_eq_left hshort, ← Nat.ceil_add_one hnonneg, ← hsplit]
    exact Nat.ceil_mono (div_le_div_of_nonneg_right hleft hinterval.le)
  · rw [min_eq_right hlong, sub_self, zero_div, Nat.ceil_zero, Nat.zero_add, Nat.one_le_ceil_iff]
    exact div_pos (hremaining.trans_le hleft) hinterval

variable {Fit : Scene Rat σ → Prop} {budget : Rat} {quest : Quest Rat σ} {world : World Rat σ}

theorem pick_scene (chooser : Chooser Rat σ) (candidates : List Endpoint) (world : World Rat σ) :
    (pick chooser candidates world).state.scene = world.scene ∨
      (pick chooser candidates world).state.scene =
        (chooser.choose candidates world.scene).state := by
  by_cases hseveral : 2 ≤ candidates.length
  · right
    rw [pick_several chooser hseveral world]
  · left
    rw [pick_few chooser hseveral world]

/-- A look takes as long as its scan. -/
theorem Quest.look_time (hscanner : quest.scanner.Timely Fit budget)
    (hchooser : quest.setup.chooser.Instant Fit) (hfit : Fit world.scene) :
    Fit (quest.look world).state.scene ∧
      world.scene.network.now ≤ (quest.look world).state.scene.network.now ∧
      (quest.look world).state.scene.network.now ≤ world.scene.network.now + budget := by
  have hbefore := hscanner.notBefore quest.baseline world.scene hfit
  have hafter := hscanner.notAfter quest.baseline world.scene hfit
  have hscanned := hscanner.fit quest.baseline world.scene hfit
  rw [look_apply]
  dsimp only
  cases (quest.scanner.scan quest.baseline world.scene).result with
  | error failure => exact ⟨hscanned, hbefore, hafter⟩
  | ok candidates =>
      dsimp only
      rcases pick_scene quest.setup.chooser candidates { world with
        scene := (quest.scanner.scan quest.baseline world.scene).state } with hsame | hchosen
      · rw [hsame]
        exact ⟨hscanned, hbefore, hafter⟩
      · rw [hchosen, hchooser.now candidates _ hscanned]
        exact ⟨hchooser.fit candidates _ hscanned, hbefore, hafter⟩

/-- Where a look fails with a failure of a task, the scanner has failed with it. -/
theorem Quest.scan_of_look_failed {cause : TaskFailure Rat}
    (hlook : (quest.look world).result = .error (.task cause)) :
    (quest.scanner.scan quest.baseline world.scene).result = .error (.task cause) := by
  cases hscan : (quest.scanner.scan quest.baseline world.scene).result with
  | error failure =>
      rw [quest.look_of_failed hscan] at hlook
      rw [Except.error.inj hlook]
  | ok candidates =>
      rw [quest.look_of_found hscan] at hlook
      cases pick_failure hlook

theorem Quest.countP_isScan_look (quest : Quest Rat σ) (world : World Rat σ) :
    (quest.look world).events.countP Event.isScan = 1 := by
  obtain ⟨rest, hevents, hchoice⟩ := quest.look_events world
  have hscanned : (Event.scanned quest.baseline : Event Rat).isScan = true := rfl
  have hrest : rest.countP Event.isScan = 0 := by
    refine List.countP_eq_zero.mpr fun event hmem => ?_
    have hevent := hchoice event hmem
    cases event <;> first | exact Bool.false_ne_true | exact hevent.elim
  rw [hevents, List.countP_cons_of_pos hscanned, hrest]

end Turn

/-! ### The whole search -/

section Search

variable {Fit : Scene Rat σ → Prop} {budget : Rat} {quest : Quest Rat σ} {world : World Rat σ}

/-- The time that is left when the next scan begins. -/
theorem Quest.left_next (quest : Quest Rat σ) (world : World Rat σ) :
    quest.left (quest.next world) =
      quest.left (quest.look world).state -
        min quest.interval (quest.left (quest.look world).state) := by
  rw [← shorter_eq_min]
  change quest.timeout - ((quest.look world).state.scene.network.now + quest.rest world -
    quest.started) = _
  unfold Quest.rest Quest.left
  ring

/-- The next scan begins in a scene of the kind again. -/
theorem Quest.next_fit (hscanner : quest.scanner.Timely Fit budget)
    (hchooser : quest.setup.chooser.Instant Fit) (hfit : Fit world.scene)
    (hrest : ¬ quest.rest world < 0) : Fit (quest.next world).scene :=
  hscanner.later (quest.rest world) _ (not_lt.mp hrest)
    (Quest.look_time hscanner hchooser hfit).1

/-- Another scan has one interval less. -/
theorem Quest.ceil_next (hinterval : 0 < quest.interval)
    (hscanner : quest.scanner.Timely Fit budget) (hchooser : quest.setup.chooser.Instant Fit)
    (hfit : Fit world.scene) (htime : ¬ quest.left (quest.look world).state ≤ 0) :
    ⌈quest.left (quest.next world) / quest.interval⌉₊ + 1 ≤
      ⌈quest.left world / quest.interval⌉₊ := by
  have hbefore := (Quest.look_time hscanner hchooser hfit).2.1
  have hdown : quest.left (quest.look world).state ≤ quest.left world := by
    unfold Quest.left
    linarith
  rw [quest.left_next world]
  exact ceil_after_pause hinterval (not_le.mp htime) hdown

/-- What a turn does to time, given that what follows after a pause is in time. -/
theorem Quest.Turn.inTime (hinterval : 0 < quest.interval)
    (hscanner : quest.scanner.Timely Fit budget) (hchooser : quest.setup.chooser.Instant Fit)
    (hfit : Fit world.scene) (hleft : 0 ≤ quest.left world) {pauses : Nat}
    {loop : Outcome (Event Rat) (World Rat σ) (Failure Rat) Endpoint}
    (hturn : quest.Turn world pauses loop)
    (honward : ∀ fewer, pauses = fewer + 1 → Fit (quest.next world).scene →
      0 ≤ quest.left (quest.next world) →
      quest.InTime (quest.left (quest.next world)) budget (quest.run fewer (quest.next world))) :
    quest.InTime (quest.left world) budget loop := by
  obtain ⟨-, hbefore, hafter⟩ := Quest.look_time hscanner hchooser hfit
  have hscans := quest.countP_isScan_look world
  have hquiet := quest.timeOutNote_not_mem_look world
  have hends : (quest.look world).state.scene.network.now ≤
      quest.started + quest.timeout + budget := by
    unfold Quest.left at hleft
    linarith
  -- One scan is allowed without any time left.
  have hone : (quest.look world).events.countP Event.isScan ≤
      ⌈quest.left world / quest.interval⌉₊ + 1 := by
    rw [hscans]
    exact Nat.le_add_left 1 _
  have hnote {event : Event Rat} (hevent : event.isScan = false) :
      ((quest.look world).events ++ [event]).countP Event.isScan ≤
        ⌈quest.left world / quest.interval⌉₊ + 1 := by
    rw [List.countP_append, List.countP_singleton, if_neg (Bool.eq_false_iff.mp hevent)]
    exact hone
  cases hturn with
  | failed failure hlook =>
      refine ⟨hone, hends, fun hmem => absurd hmem hquiet, fun cause hcause => .inr ?_⟩
      cases hcause
      exact ⟨world.scene, Quest.scan_of_look_failed hlook⟩
  | found endpoint hlook =>
      refine ⟨hnote rfl, hends, fun hmem => ?_, fun cause hcause => by cases hcause⟩
      rcases List.mem_append.mp hmem with hearlier | hlast
      · exact absurd hearlier hquiet
      · cases List.mem_singleton.mp hlast
  | timedOut hlook htime =>
      refine ⟨hnote rfl, hends, fun _ => ?_, fun cause _ => .inl ?_⟩
      · unfold Quest.left at htime
        linarith
      · exact List.mem_append_right _ List.mem_cons_self
  | refused hlook htime hrest =>
      exact ⟨hone, hends, fun hmem => absurd hmem hquiet, fun cause hcause => by cases hcause⟩
  | interrupted hlook htime hrest hstop =>
      refine ⟨hnote rfl, hends, fun hmem => ?_, fun cause hcause => by cases hcause⟩
      rcases List.mem_append.mp hmem with hearlier | hlast
      · exact absurd hearlier hquiet
      · cases List.mem_singleton.mp hlast
  | @again fewer hlook htime hrest =>
      have hnext : 0 ≤ quest.left (quest.next world) := by
        rw [quest.left_next world]
        exact sub_nonneg.mpr (min_le_right _ _)
      have hkept := Quest.next_fit hscanner hchooser hfit hrest
      obtain ⟨hmore, hend, hreported, hraised⟩ := honward fewer rfl hkept hnext
      refine ⟨?_, hend, fun hmem => ?_, fun cause hcause => ?_⟩
      · have hfewer := Quest.ceil_next hinterval hscanner hchooser hfit htime
        have hslept : (Event.slept (quest.rest world) : Event Rat).isScan = false := rfl
        rw [List.countP_append, List.countP_cons_of_neg (Bool.eq_false_iff.mp hslept), hscans]
        omega
      · rcases List.mem_append.mp hmem with hearlier | hlater
        · exact absurd hearlier hquiet
        · rcases List.mem_cons.mp hlater with hslept | honward
          · cases hslept
          · exact hreported honward
      · refine (hraised cause hcause).imp_left fun hmem => ?_
        exact List.mem_append_right _ (List.mem_cons_of_mem _ hmem)

theorem Quest.inTime (quest : Quest Rat σ) (hinterval : 0 < quest.interval)
    (hscanner : quest.scanner.Timely Fit budget) (hchooser : quest.setup.chooser.Instant Fit)
    (pauses : Nat) (world : World Rat σ) (hfit : Fit world.scene) (hleft : 0 ≤ quest.left world) :
    quest.InTime (quest.left world) budget (quest.run pauses world) := by
  induction pauses generalizing world with
  | zero =>
      refine (quest.turn 0 world).inTime hinterval hscanner hchooser hfit hleft ?_
      intro fewer hfewer
      cases hfewer
  | succ pauses ih =>
      refine (quest.turn (pauses + 1) world).inTime hinterval hscanner hchooser hfit hleft ?_
      rintro fewer ⟨⟩ hnextFit hnextLeft
      exact ih _ hnextFit hnextLeft

/-! ### Patience -/

/-- What patience is left matters only where the search goes on after a pause. -/
theorem Quest.run_congr {pauses pauses' : Nat}
    (hresume : (quest.look world).result = .ok none →
      ¬ quest.left (quest.look world).state ≤ 0 →
      quest.resume pauses (quest.rest world) (quest.look world).state =
        quest.resume pauses' (quest.rest world) (quest.look world).state) :
    quest.run pauses world = quest.run pauses' world := by
  rw [run_eq_turnThen, run_eq_turnThen, turnThen_apply, turnThen_apply]
  dsimp only
  rcases hlook : (quest.look world).result with failure | ⟨_ | endpoint⟩
  · rfl
  · by_cases hleft : quest.left (quest.look world).state ≤ 0
    · simp only [hleft, if_true]
    · simp only [hleft, if_false, hresume hlook hleft]
  · rfl

theorem Quest.resume_congr {pauses pauses' : Nat}
    (hrun : quest.run pauses (quest.next world) = quest.run pauses' (quest.next world)) :
    quest.resume (pauses + 1) (quest.rest world) (quest.look world).state =
      quest.resume (pauses' + 1) (quest.rest world) (quest.look world).state := by
  unfold Quest.next at hrun
  rw [resume, resume, pause_then_apply, pause_then_apply, hrun]

/-- Patience for as many pauses as there are intervals in the time that is left is patience for all
that the search will make: more of it changes nothing. -/
theorem Quest.run_eq_of_patience (quest : Quest Rat σ) (hinterval : 0 < quest.interval)
    (hscanner : quest.scanner.Timely Fit budget) (hchooser : quest.setup.chooser.Instant Fit)
    (pauses pauses' : Nat) (world : World Rat σ) (hfit : Fit world.scene)
    (henough : ⌈quest.left world / quest.interval⌉₊ ≤ pauses)
    (henough' : ⌈quest.left world / quest.interval⌉₊ ≤ pauses') :
    quest.run pauses world = quest.run pauses' world := by
  induction pauses generalizing pauses' world with
  | zero =>
      refine Quest.run_congr fun hlook htime => ?_
      have hfewer := Quest.ceil_next hinterval hscanner hchooser hfit htime
      omega
  | succ pauses ih =>
      refine Quest.run_congr fun hlook htime => ?_
      have hfewer := Quest.ceil_next hinterval hscanner hchooser hfit htime
      obtain ⟨fewer, rfl⟩ : ∃ fewer, pauses' = fewer + 1 :=
        Nat.exists_eq_add_one_of_ne_zero (by omega)
      by_cases hrest : quest.rest world < 0
      · rw [Quest.resume, Quest.resume, pause_then_apply, pause_then_apply, if_pos hrest,
          if_pos hrest]
      · have hkept := Quest.next_fit hscanner hchooser hfit hrest
        exact Quest.resume_congr (ih fewer _ hkept (by omega) (by omega))

/-! ### The end of a search -/

/-- A search that goes on pauses for some time. -/
theorem Quest.rest_pos (hinterval : 0 < quest.interval)
    (htime : ¬ quest.left (quest.look world).state ≤ 0) : 0 < quest.rest world := by
  rw [rest, shorter_eq_min]
  exact lt_min hinterval (not_le.mp htime)

/-- How a turn settles a search, given that what follows after a pause does. There is patience for
all pauses that may come, and none of them is interrupted. -/
theorem Quest.Turn.settles (hinterval : 0 < quest.interval)
    (hscanner : quest.scanner.Timely Fit budget) (hchooser : quest.setup.chooser.Instant Fit)
    (hfit : Fit world.scene) {pauses : Nat}
    (henough : ⌈quest.left world / quest.interval⌉₊ ≤ pauses)
    (hcalm : world.Uninterrupted ⌈quest.left world / quest.interval⌉₊)
    {loop : Outcome (Event Rat) (World Rat σ) (Failure Rat) Endpoint}
    (hturn : quest.Turn world pauses loop)
    (honward : ∀ fewer, pauses = fewer + 1 → Fit (quest.next world).scene →
      ⌈quest.left (quest.next world) / quest.interval⌉₊ ≤ fewer →
      (quest.next world).Uninterrupted ⌈quest.left (quest.next world) / quest.interval⌉₊ →
      quest.Settles Fit (quest.run fewer (quest.next world))) :
    quest.Settles Fit loop := by
  cases hturn with
  | failed failure hlook => exact .failed failure world hfit hlook rfl
  | found endpoint hlook => exact .found endpoint world hfit hlook rfl
  | timedOut hlook htime => exact .timedOut rfl (List.mem_append_right _ List.mem_cons_self)
  | refused hlook htime hrest => exact absurd (Quest.rest_pos hinterval htime) hrest.not_gt
  | interrupted hlook htime hrest hstop =>
      have hfewer := Quest.ceil_next hinterval hscanner hchooser hfit htime
      rcases hstop with hnone | hinterrupted
      · omega
      · have hbeyond := hcalm _ hinterrupted
        omega
  | @again fewer hlook htime hrest =>
      have hfewer := Quest.ceil_next hinterval hscanner hchooser hfit htime
      have hkept := Quest.next_fit hscanner hchooser hfit hrest
      have hcalmer : (quest.next world).Uninterrupted
          ⌈quest.left (quest.next world) / quest.interval⌉₊ := by
        intro pause hpause
        rw [Quest.next_patience] at hpause
        have hbeyond := hcalm pause hpause
        rw [Quest.next_paused]
        omega
      cases honward fewer rfl hkept (by omega) hcalmer with
      | found endpoint place hplace hlook hresult =>
          exact .found endpoint place hplace hlook hresult
      | failed failure place hplace hlook hresult =>
          exact .failed failure place hplace hlook hresult
      | timedOut hresult hnote =>
          exact .timedOut hresult (List.mem_append_right _ (List.mem_cons_of_mem _ hnote))

/-- With enough patience a search is settled: one that finds nothing, and in which nothing fails,
runs out of time. -/
theorem Quest.settles (quest : Quest Rat σ) (hinterval : 0 < quest.interval)
    (hscanner : quest.scanner.Timely Fit budget) (hchooser : quest.setup.chooser.Instant Fit)
    (pauses : Nat) (world : World Rat σ) (hfit : Fit world.scene)
    (henough : ⌈quest.left world / quest.interval⌉₊ ≤ pauses)
    (hcalm : world.Uninterrupted ⌈quest.left world / quest.interval⌉₊) :
    quest.Settles Fit (quest.run pauses world) := by
  induction pauses generalizing world with
  | zero =>
      refine (quest.turn 0 world).settles hinterval hscanner hchooser hfit henough hcalm ?_
      intro fewer hfewer
      cases hfewer
  | succ pauses ih =>
      refine (quest.turn (pauses + 1) world).settles hinterval hscanner hchooser hfit henough
        hcalm ?_
      rintro fewer ⟨⟩ hnextFit hnextEnough hnextCalm
      exact ih _ hnextFit hnextEnough hnextCalm

/-- What bounds a discovery, once its process is launched. With a scanner that keeps to a budget and
a chooser that takes no time, it is in time; if scans take no time at all, it reports that time is
up exactly at the deadline; and if the user has patience for as many pauses as there are intervals
in the timeout, then no patience is missing, and a search that is not interrupted, finds nothing and
meets no failure does report that time is up and fails with this. A scanner of sockets with a budget
is such a scanner. -/
theorem discover_inTime (setup : RunnerSetup Rat σ) (scanner : Scanner Rat σ) (name line : String)
    (known : List Endpoint) (world : World Rat σ) {timeout interval : Rat}
    (htimeout : setup.timeout = some timeout) (hinterval : setup.interval = some interval)
    (hnonneg : 0 ≤ timeout) (hpositive : 0 < interval) {here : List Endpoint}
    (hprepared : (prepare setup scanner name line world).result = .ok here) :
    let prepared := prepare setup scanner name line world
    let quest := Quest.ofLaunch setup scanner name htimeout hinterval (baselineOf here known)
      prepared.state
    let loop := quest.run prepared.state.patience.pauses prepared.state
    discover setup scanner name line known world =
        ⟨loop.result, loop.state, prepared.events ++ loop.events⟩ ∧
      (∀ Fit budget, scanner.Timely Fit budget → setup.chooser.Instant Fit →
        Fit prepared.state.scene →
          quest.InTime timeout budget loop ∧
          (budget = 0 → timeOutNote name timeout ∈ loop.events →
            loop.state.scene.network.now = quest.started + timeout) ∧
          (⌈timeout / interval⌉₊ ≤ prepared.state.patience.pauses →
            (∀ pauses, ⌈timeout / interval⌉₊ ≤ pauses → quest.run pauses prepared.state = loop) ∧
            (prepared.state.Uninterrupted ⌈timeout / interval⌉₊ → quest.Settles Fit loop))) ∧
      ∀ plan cursor limit budget, scanner = Scanner.ofSockets plan cursor →
        plan.timeout = some limit → 0 < limit → plan.budget = some budget → 0 ≤ budget →
          scanner.Timely (fun scene => scene.network.Causal) budget := by
  intro prepared quest loop
  have hstart : quest.left prepared.state = timeout := by
    change timeout - (prepared.state.scene.network.now - prepared.state.scene.network.now) = timeout
    ring
  refine ⟨discover_of_prepared setup scanner name line known hprepared htimeout hinterval, ?_, ?_⟩
  · intro Fit budget hscanner hchooser hfit
    have hinTime : quest.InTime timeout budget loop := by
      have hall := quest.inTime hpositive hscanner hchooser prepared.state.patience.pauses
        prepared.state hfit (hstart.symm ▸ hnonneg)
      rw [hstart] at hall
      exact hall
    refine ⟨hinTime, fun hbudget hreported => ?_, fun henough => ⟨fun pauses hpauses => ?_, ?_⟩⟩
    · have hends := hinTime.ends
      rw [hbudget, add_zero] at hends
      exact le_antisymm hends (hinTime.reported hreported)
    · refine quest.run_eq_of_patience hpositive hscanner hchooser _ _ _ hfit ?_ ?_
      · rw [hstart]
        exact hpauses
      · rw [hstart]
        exact henough
    · intro hcalm
      refine quest.settles hpositive hscanner hchooser _ _ hfit ?_ ?_
      · rw [hstart]
        exact henough
      · rw [hstart]
        exact hcalm
  · rintro plan cursor limit budget rfl hplan hlimit hbudget hbudgetNonneg
    exact Scanner.ofSockets_timely hplan hlimit hbudget hbudgetNonneg cursor

end Search

/-- Probes one path for half a second at most, and three quarters of a second in all. -/
def briefPlan : ProbePlan Rat where
  timeout := some (1 / 2)
  paths := [.text "/"]
  budget := some (3 / 4)

def briefScanner : Scanner Rat Nat := Scanner.ofSockets briefPlan ⟨id, fun cursor _ => cursor⟩

def briefSetup : RunnerSetup Rat Nat where
  notifier := ⟨fun _ => pure ()⟩
  chooser := ⟨fun _ => pure 0⟩
  isInstalled _ := true
  timeout := some 2
  interval := some 1

/-- A new socket shows up in time, but nothing behind it answers. -/
def mutedWorld : World Rat Nat where
  scene := ⟨⟨0, [⟨some "127.0.0.1", 4000, "LISTEN", some 1, none⟩], false, [], false,
    [("http://127.0.0.1:4000/", [⟨200, "OK", "", 0, true, none, none, none⟩])]⟩, 0⟩
  processes := ⟨[], [], 5, [], [], "linux", true⟩
  patience := ⟨none, 5⟩
  paused := 0
  registry := Registry.empty

/-- Finds nothing, and in no time. -/
def idleScanner : Scanner Rat Nat := ⟨pure [], fun _ => pure []⟩

theorem idleScanner_timely : idleScanner.Timely (fun _ => True) 0 where
  notBefore _ _ _ := le_refl _
  notAfter _ scene _ := (add_zero scene.network.now).ge
  fit _ _ _ := trivial
  later _ _ _ _ := trivial

/-- Three scans at most, and less than three seconds. Where scans find nothing and take no time, the
time-out comes after two seconds to the point. -/
theorem discover_inTime_mutedWorld :
    (prepare briefSetup briefScanner "a" "srv" mutedWorld).result = .ok [] ∧
      mutedWorld.scene.network.Causal ∧
      ∃ (before : List (Event Rat))
        (loop : Outcome (Event Rat) (World Rat Nat) (Failure Rat) Endpoint),
        discover briefSetup briefScanner "a" "srv" [] mutedWorld =
          ⟨loop.result, loop.state, before ++ loop.events⟩ ∧
        loop.events.countP Event.isScan ≤ ⌈(2 : Rat) / 1⌉₊ + 1 ∧
        loop.state.scene.network.now ≤ 0 + 2 + 3 / 4 ∧
      let idle := discover briefSetup idleScanner "a" "srv" [] mutedWorld
      idle.result = .error (.task (.discoveryTimeout "a" 2)) ∧
        idle.state.scene.network.now = 0 + 2 := by
  have hprepared : (prepare briefSetup briefScanner "a" "srv" mutedWorld).result = .ok [] := by
    rfl
  have hprepared' : (prepare briefSetup idleScanner "a" "srv" mutedWorld).result = .ok [] := by
    rfl
  have hcausal : mutedWorld.scene.network.Causal := by
    simp [Network.Causal, mutedWorld]
  obtain ⟨hdiscover, htimed, hsockets⟩ := discover_inTime briefSetup briefScanner "a" "srv" []
    mutedWorld rfl rfl (by norm_num) one_pos hprepared
  have hscanner := hsockets briefPlan _ (1 / 2) (3 / 4) rfl rfl (by norm_num) rfl (by norm_num)
  have hchooser : briefSetup.chooser.Instant fun scene => scene.network.Causal :=
    ⟨fun _ _ _ => rfl, fun _ _ hfit => hfit⟩
  have hinTime := (htimed _ _ hscanner hchooser hcausal).1
  obtain ⟨hidle, htimed', -⟩ := discover_inTime briefSetup idleScanner "a" "srv" []
    mutedWorld rfl rfl (by norm_num) one_pos hprepared'
  obtain ⟨-, hexact, hpatient⟩ := htimed' _ 0 idleScanner_timely
    ⟨fun _ _ _ => rfl, fun _ _ hfit => hfit⟩ trivial
  have henough : ⌈(2 : Rat) / 1⌉₊ ≤
      (prepare briefSetup idleScanner "a" "srv" mutedWorld).state.patience.pauses := by
    change _ ≤ 5
    norm_num
  have hsettles := (hpatient henough).2 fun pause hpause => by cases hpause
  obtain ⟨hresult, hnote⟩ : _ ∧ _ := by
    cases hsettles with
    | found endpoint place hfit hlook hresult => cases hlook
    | failed failure place hfit hlook hresult => cases hlook
    | timedOut hresult hnote => exact ⟨hresult, hnote⟩
  refine ⟨hprepared, hcausal, _, _, hdiscover, hinTime.scans, hinTime.ends, ?_, ?_⟩
  · rw [hidle]
    exact hresult
  · rw [hidle]
    exact hexact rfl hnote

end SubgraphLauncher
