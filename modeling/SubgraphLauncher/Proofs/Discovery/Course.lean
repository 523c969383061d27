import SubgraphLauncher.Partner.Script
import SubgraphLauncher.Proofs.Discovery.Turn

/-!
# The course of a discovery

A search that comes to an end by itself is told by the worlds in which its scans begin. Each world
fixes what its scan resolves to and whether another scan follows, and the next world is the one that
the scan leaves behind, after a pause. `discover_course` says so of whole discoveries; that a scan
follows every pause, and that time runs out only right after a scan, can be read off its trace.
-/

namespace SubgraphLauncher

open SubgraphLauncher.Action RunnerAction

variable {τ σ : Type}

/-- Scans and pauses. -/
def Event.isBeat : Event τ → Bool
  | .scanned _ | .slept _ => true
  | _ => false

/-- The candidates among which an event asks the chooser to choose. -/
def Event.asked? : Event τ → Option (List Endpoint)
  | .asked candidates => some candidates
  | _ => none

section Definitions

variable [Moment τ]

/-- A run that no failure from elsewhere has ended: it has an endpoint, or its own report that time
is up is the last of it. -/
def EndsByItself (name : String) (timeout : τ)
    (run : Outcome (Event τ) (World τ σ) (Failure τ) Endpoint) : Prop :=
  run.result.isOk = true ∨ run.events.getLast? = some (timeOutNote name timeout)

/-- A scanner that finds nothing and leaves the given scene behind. -/
def Scanner.vacant (scene : Scene τ σ) : Scanner τ σ where
  survey := pure []
  scan _ := do
    Action.change fun _ => scene
    return []

namespace Quest

variable (quest : Quest τ σ) (world : World τ σ)

/-- The endpoint that the scan resolves to which begins in a world. -/
def resolution : Option Endpoint :=
  match (quest.look world).result with
  | .ok picked => picked
  | .error _ => none

/-- The chooser's answer to the candidates of the scan that begins in a world. -/
def choice (candidates : List Endpoint) : Outcome (PartnerEvent τ) (Scene τ σ) (Failure τ) Int :=
  quest.setup.chooser.choose candidates (quest.scanner.scan quest.baseline world.scene).state

/-- What is seen right after the scan that begins in a world. -/
def sequel : Event τ :=
  match quest.resolution world with
  | some endpoint => foundNote quest.name endpoint
  | none =>
    if quest.left (quest.look world).state ≤ 0 then timeOutNote quest.name quest.timeout
    else .slept (quest.rest world)

/-- What the first resolution of a search leads to, or that there is none. -/
def verdict : Option Endpoint → Except (Failure τ) Endpoint
  | some endpoint => .ok endpoint
  | none => .error (.task (.discoveryTimeout quest.name quest.timeout))

/-- What a scan finds and resolves to. One candidate stands for itself. Several are put to the
chooser, once, and an index of theirs decides; everything else decides for none. -/
structure Sighting (candidates : List Endpoint) : Prop where
  found : (quest.scanner.scan quest.baseline world.scene).result = .ok candidates
  asked : (quest.look world).events.filterMap Event.asked? =
    if 2 ≤ candidates.length then [candidates] else []
  scene : (quest.look world).state.scene =
    if 2 ≤ candidates.length then (quest.choice world candidates).state
    else (quest.scanner.scan quest.baseline world.scene).state
  alone : ∀ endpoint, candidates = [endpoint] → quest.resolution world = some endpoint
  chosen : 2 ≤ candidates.length → ∀ index : Nat, index < candidates.length →
    (quest.choice world candidates).result = .ok index →
    quest.resolution world = candidates[index]?
  none : candidates.length ≠ 1 → (2 ≤ candidates.length → ∀ index : Nat, index < candidates.length →
    (quest.choice world candidates).result ≠ .ok index) → quest.resolution world = none

/-- From the scan that begins in a world on, the search goes on as if the scan had found nothing. -/
def GoesOnAsIfVacant : Prop :=
  ∀ pauses, ∃ onward : Outcome (Event τ) (World τ σ) (Failure τ) Endpoint,
    quest.run pauses world =
      ⟨onward.result, onward.state, (quest.look world).events ++ onward.events⟩ ∧
    { quest with scanner := .vacant (quest.look world).state.scene }.turnThen (quest.resume pauses)
        world =
      ⟨onward.result, onward.state, .scanned quest.baseline :: onward.events⟩

/-- A search that began in a world and ended by itself has this course, told by the worlds in which
its scans begin. Where it says that time is left, what is left is not at most zero. -/
structure Course (scans : List (World τ σ))
    (loop : Outcome (Event τ) (World τ σ) (Failure τ) Endpoint) : Prop where
  begins : scans.head? = some world
  looks : ∀ scan ∈ scans, (quest.look scan).result = .ok (quest.resolution scan)
  continues : ∀ i scan, scans[i]? = some scan →
    (i + 1 < scans.length ↔
      quest.resolution scan = none ∧ ¬ quest.left (quest.look scan).state ≤ 0)
  rests : ∀ i scan later, scans[i]? = some scan → scans[i + 1]? = some later →
    later = quest.next scan
  events : loop.events = scans.flatMap fun scan => (quest.look scan).events ++ [quest.sequel scan]
  beats : loop.events.filter Event.isBeat =
    .scanned quest.baseline ::
      scans.dropLast.flatMap fun scan => [.slept (quest.rest scan), .scanned quest.baseline]
  result : loop.result = quest.verdict (scans.findSome? quest.resolution)

end Quest

end Definitions

/-! ### Single scans -/

section Scans

variable [Moment τ] (quest : Quest τ σ) {world : World τ σ}

omit [Moment τ] in
theorem filterMap_asked?_partner (events : List (PartnerEvent τ)) :
    (events.map Event.partner).filterMap Event.asked? = [] := by
  rw [List.filterMap_map]
  exact List.filterMap_eq_nil_iff.mpr fun _ _ => rfl

omit [Moment τ] in
theorem filterMap_asked?_record (records : List Record) :
    (records.map Event.record : List (Event τ)).filterMap Event.asked? = [] := by
  rw [List.filterMap_map]
  exact List.filterMap_eq_nil_iff.mpr fun _ _ => rfl

theorem candidateAt?_natCast (candidates : List Endpoint) (index : Nat) :
    candidateAt? candidates index = candidates[index]? := by
  rw [candidateAt?, if_pos (Int.natCast_nonneg index), Int.toNat_natCast]

omit [Moment τ] in
/-- An answer that is no index of the candidates stands for none of them. -/
theorem eq_none_of_pickedBy {candidates : List Endpoint} {answer : Except (Failure τ) Int}
    {picked : Option Endpoint} (hpicked : pickedBy candidates answer = .ok picked)
    (houtside : ∀ index : Nat, index < candidates.length → answer ≠ .ok index) :
    picked = none := by
  cases answer with
  | error failure =>
      unfold pickedBy at hpicked
      dsimp only at hpicked
      split at hpicked
      · exact (Except.ok.inj hpicked).symm
      · cases hpicked
  | ok index =>
      rw [← Except.ok.inj hpicked, candidateAt?]
      split
      · rename_i hnonneg
        refine List.getElem?_eq_none (Nat.le_of_not_lt fun hinside => ?_)
        refine houtside index.toNat hinside ?_
        rw [Int.toNat_of_nonneg hnonneg]
      · rfl

namespace Quest

theorem resolution_of_look {picked : Option Endpoint}
    (hlook : (quest.look world).result = .ok picked) : quest.resolution world = picked := by
  rw [resolution, hlook]

theorem sighting_of_few {candidates : List Endpoint} (hfew : ¬ 2 ≤ candidates.length)
    (hfound : (quest.scanner.scan quest.baseline world.scene).result = .ok candidates) :
    quest.Sighting world candidates := by
  have hlooked := quest.look_of_found hfound
  simp only [pick_few quest.setup.chooser hfew] at hlooked
  have hresolution : quest.resolution world = candidates.head? :=
    quest.resolution_of_look (by rw [hlooked])
  refine ⟨hfound, ?_, ?_, ?_, fun hseveral => absurd hseveral hfew, fun hnone _ => ?_⟩
  · have hscanned : (Event.scanned quest.baseline : Event τ).asked? = none := rfl
    rw [hlooked, if_neg hfew, List.append_nil, List.filterMap_cons_none hscanned,
      filterMap_asked?_partner]
  · rw [hlooked, if_neg hfew]
  · intro endpoint halone
    rw [hresolution, halone]
    rfl
  · have hempty : candidates = [] := by
      apply List.length_eq_zero_iff.mp
      omega
    rw [hresolution, hempty]
    rfl

theorem sighting_of_several {candidates : List Endpoint} (hseveral : 2 ≤ candidates.length)
    (hfound : (quest.scanner.scan quest.baseline world.scene).result = .ok candidates)
    {picked : Option Endpoint} (hlook : (quest.look world).result = .ok picked) :
    quest.Sighting world candidates := by
  have hlooked := quest.look_of_found hfound
  simp only [pick_several quest.setup.chooser hseveral] at hlooked
  have hpicked : pickedBy candidates (quest.choice world candidates).result = .ok picked := by
    rw [hlooked] at hlook
    exact hlook
  have hresolution := quest.resolution_of_look hlook
  refine ⟨hfound, ?_, ?_, ?_, ?_, ?_⟩
  · have hscanned : (Event.scanned quest.baseline : Event τ).asked? = none := rfl
    have hnoted : (Event.record (candidatesNote candidates) : Event τ).asked? = none := rfl
    have hasked : (Event.asked candidates : Event τ).asked? = some candidates := rfl
    rw [hlooked, if_pos hseveral, List.filterMap_cons_none hscanned, List.filterMap_append,
      List.filterMap_cons_none hnoted, List.filterMap_cons_some hasked, List.filterMap_append,
      filterMap_asked?_partner, filterMap_asked?_partner, filterMap_asked?_record]
    rfl
  · rw [hlooked, if_pos hseveral]
    rfl
  · rintro endpoint rfl
    exact absurd hseveral (Nat.lt_irrefl 1)
  · intro _ index _ hanswer
    rw [hanswer, pickedBy, candidateAt?_natCast] at hpicked
    rw [hresolution]
    exact (Except.ok.inj hpicked).symm
  · intro _ houtside
    rw [hresolution]
    exact eq_none_of_pickedBy hpicked (houtside hseveral)

theorem sighting {picked : Option Endpoint} (hlook : (quest.look world).result = .ok picked) :
    ∃ candidates, quest.Sighting world candidates := by
  cases hfound : (quest.scanner.scan quest.baseline world.scene).result with
  | error failure =>
      rw [look_apply] at hlook
      simp only [hfound] at hlook
      cases hlook
  | ok candidates =>
      by_cases hseveral : 2 ≤ candidates.length
      · exact ⟨candidates, quest.sighting_of_several hseveral hfound hlook⟩
      · exact ⟨candidates, quest.sighting_of_few hseveral hfound⟩

/-- Whatever a look has done that resolves to nothing, what follows depends on no more of it than on
the state that it leaves behind. -/
theorem goesOnAsIfVacant (hlook : (quest.look world).result = .ok none) :
    quest.GoesOnAsIfVacant world := by
  intro pauses
  let vacated : Quest τ σ := { quest with scanner := .vacant (quest.look world).state.scene }
  have hfound : (vacated.scanner.scan vacated.baseline world.scene).result = .ok [] := rfl
  have hvacant : vacated.look world =
      ⟨.ok none, (quest.look world).state, [.scanned quest.baseline]⟩ := by
    rw [vacated.look_of_found hfound, quest.look_state]
    rfl
  refine ⟨quest.settleLook (quest.resume pauses) none (quest.look world).state, ?_, ?_⟩
  · rw [run_eq_turnThen, turnThen_eq, bind_apply]
    simp only [hlook]
  · change vacated.turnThen _ world = _
    rw [turnThen_eq, bind_apply, hvacant]
    rfl

theorem look_beats (world : World τ σ) :
    (quest.look world).events.filter Event.isBeat = [.scanned quest.baseline] := by
  obtain ⟨rest, hevents, hchoice⟩ := quest.look_events world
  have hscanned : (Event.scanned quest.baseline : Event τ).isBeat = true := rfl
  have hrest : rest.filter Event.isBeat = [] := by
    refine List.filter_eq_nil_iff.mpr fun event hmem => ?_
    have hevent := hchoice event hmem
    cases event <;> first | exact Bool.false_ne_true | exact hevent.elim
  rw [hevents, List.filter_cons_of_pos hscanned, hrest]

end Quest

end Scans

/-! ### From scan to scan -/

section Courses

variable [Moment τ] (quest : Quest τ σ) {world : World τ σ}

namespace Quest

/-- The course of a search that ends with its first scan. -/
theorem course_last {picked : Option Endpoint} (hlook : (quest.look world).result = .ok picked)
    (hlast : picked = none → quest.left (quest.look world).state ≤ 0) :
    quest.Course world [world]
      ⟨quest.verdict picked, (quest.look world).state,
        (quest.look world).events ++ [quest.sequel world]⟩ := by
  have hresolution := quest.resolution_of_look hlook
  have hsequel : (quest.sequel world).isBeat = false := by
    rw [sequel, hresolution]
    cases picked with
    | some endpoint => rfl
    | none =>
        dsimp only
        rw [if_pos (hlast rfl)]
        rfl
  refine ⟨rfl, ?_, ?_, ?_, ?_, ?_, ?_⟩
  · intro scan hscan
    rw [List.mem_singleton] at hscan
    rw [hscan, hlook, hresolution]
  · intro i scan hscan
    obtain ⟨rfl, rfl⟩ : i = 0 ∧ scan = world := by
      cases i with
      | zero => exact ⟨rfl, (Option.some.inj hscan).symm⟩
      | succ i => cases hscan
    refine ⟨fun hmore => absurd hmore (Nat.lt_irrefl 1), ?_⟩
    rintro ⟨hnone, htime⟩
    exact absurd (hlast (hresolution.symm.trans hnone)) htime
  · intro i scan later _ hlater
    cases hlater
  · rw [List.flatMap_singleton]
  · dsimp only
    rw [List.filter_append, quest.look_beats world,
      List.filter_cons_of_neg (Bool.eq_false_iff.mp hsequel)]
    rfl
  · rw [List.findSome?_singleton, hresolution]

/-- A scan that resolves to nothing, with time left, and the course from the next scan on. -/
theorem course_cons {scans : List (World τ σ)}
    {onward : Outcome (Event τ) (World τ σ) (Failure τ) Endpoint}
    (hlook : (quest.look world).result = .ok none)
    (hleft : ¬ quest.left (quest.look world).state ≤ 0)
    (honward : quest.Course (quest.next world) scans onward) :
    quest.Course world (world :: scans)
      ⟨onward.result, onward.state,
        (quest.look world).events ++ .slept (quest.rest world) :: onward.events⟩ := by
  have hresolution := quest.resolution_of_look hlook
  have hsequel : quest.sequel world = .slept (quest.rest world) := by
    rw [sequel, hresolution]
    exact if_neg hleft
  have hnonempty : scans ≠ [] := by
    rintro rfl
    cases honward.begins
  refine ⟨rfl, ?_, ?_, ?_, ?_, ?_, ?_⟩
  · refine List.forall_mem_cons.mpr ⟨?_, honward.looks⟩
    rw [hlook, hresolution]
  · intro i scan hscan
    cases i with
    | zero =>
        obtain rfl : world = scan := Option.some.inj hscan
        refine ⟨fun _ => ⟨hresolution, hleft⟩, fun _ => ?_⟩
        exact Nat.succ_lt_succ (List.length_pos_iff.mpr hnonempty)
    | succ i =>
        rw [← honward.continues i scan hscan]
        exact Nat.succ_lt_succ_iff
  · intro i scan later hscan hlater
    cases i with
    | zero =>
        obtain rfl : world = scan := Option.some.inj hscan
        have hfirst := honward.begins
        rw [List.head?_eq_getElem?] at hfirst
        exact Option.some.inj (hlater.symm.trans hfirst)
    | succ i => exact honward.rests i scan later hscan hlater
  · rw [List.flatMap_cons, hsequel, ← honward.events, List.append_assoc]
    rfl
  · have hslept : (Event.slept (quest.rest world) : Event τ).isBeat = true := rfl
    rw [List.filter_append, quest.look_beats world, List.filter_cons_of_pos hslept, honward.beats,
      List.dropLast_cons_of_ne_nil hnonempty, List.flatMap_cons]
    rfl
  · rw [List.findSome?_cons, hresolution]
    exact honward.result

/-- The last event of a search that went on after a pause is the last one after the pause. -/
theorem getLast?_of_again {name : String} {timeout duration : τ} {before after : List (Event τ)}
    (hlast : (before ++ .slept duration :: after).getLast? = some (timeOutNote name timeout)) :
    after.getLast? = some (timeOutNote name timeout) := by
  rw [List.getLast?_append, List.getLast?_cons] at hlast
  cases hafter : after.getLast? with
  | none =>
      rw [hafter] at hlast
      cases hlast
  | some event =>
      rw [hafter] at hlast
      exact hlast

/-- A turn that lets the search end by itself is the last one, or the search goes on and does so. -/
theorem exists_course_of_turn {pauses : Nat}
    {loop : Outcome (Event τ) (World τ σ) (Failure τ) Endpoint}
    (hturn : quest.Turn world pauses loop) (hend : EndsByItself quest.name quest.timeout loop)
    (honward : ∀ fewer, pauses = fewer + 1 →
      EndsByItself quest.name quest.timeout (quest.run fewer (quest.next world)) →
      ∃ scans, quest.Course (quest.next world) scans (quest.run fewer (quest.next world))) :
    ∃ scans, quest.Course world scans loop := by
  have hforeign {failure : Failure τ} {state : World τ σ}
      (hend : EndsByItself quest.name quest.timeout
        ⟨.error failure, state, (quest.look world).events⟩) : False := by
    rcases hend with hok | hlast
    · cases hok
    · exact quest.timeOutNote_not_mem_look world (List.mem_of_getLast? hlast)
  cases hturn with
  | failed failure hlook => exact (hforeign hend).elim
  | refused hlook hleft hrest => exact (hforeign hend).elim
  | interrupted hlook hleft hrest hstop =>
      rcases hend with hok | hlast
      · cases hok
      · rw [List.getLast?_append] at hlast
        cases hlast
  | found endpoint hlook =>
      have hsequel : quest.sequel world = foundNote quest.name endpoint := by
        rw [sequel, quest.resolution_of_look hlook]
      rw [← hsequel]
      exact ⟨[world], quest.course_last hlook fun hnone => by cases hnone⟩
  | timedOut hlook hleft =>
      have hsequel : quest.sequel world = timeOutNote quest.name quest.timeout := by
        rw [sequel, quest.resolution_of_look hlook]
        exact if_pos hleft
      rw [← hsequel]
      exact ⟨[world], quest.course_last hlook fun _ => hleft⟩
  | @again fewer hlook hleft hrest =>
      have hlater : EndsByItself quest.name quest.timeout (quest.run fewer (quest.next world)) :=
        hend.imp_right getLast?_of_again
      obtain ⟨scans, hcourse⟩ := honward fewer rfl hlater
      exact ⟨world :: scans, quest.course_cons hlook hleft hcourse⟩

/-- A search that ends by itself has a course. -/
theorem exists_course (pauses : Nat) (world : World τ σ)
    (hend : EndsByItself quest.name quest.timeout (quest.run pauses world)) :
    ∃ scans, quest.Course world scans (quest.run pauses world) := by
  induction pauses generalizing world with
  | zero =>
      refine quest.exists_course_of_turn (quest.turn 0 world) hend fun fewer hfewer => ?_
      cases hfewer
  | succ pauses ih =>
      refine quest.exists_course_of_turn (quest.turn (pauses + 1) world) hend ?_
      rintro fewer ⟨⟩
      exact ih (quest.next world)

end Quest

/-- What a discovery does that ends by itself. It has prepared, and seen neither a scan nor a pause
by then, and its search has a course from the launch on. Each of its scans resolves as its sighting
says, and one that resolves to nothing leaves no other trace in what follows than an empty one. -/
theorem discover_course (setup : RunnerSetup τ σ) (scanner : Scanner τ σ) (name line : String)
    (known : List Endpoint) (world : World τ σ) {timeout interval : τ}
    (htimeout : setup.timeout = some timeout) (hinterval : setup.interval = some interval)
    (hend : EndsByItself name timeout (discover setup scanner name line known world)) :
    let prepared := prepare setup scanner name line world
    (∀ event ∈ prepared.events, event.isBeat = false) ∧
      ∃ here, prepared.result = .ok here ∧
        let quest := Quest.ofLaunch setup scanner name htimeout hinterval (baselineOf here known)
          prepared.state
        ∃ loop scans,
          discover setup scanner name line known world =
            ⟨loop.result, loop.state, prepared.events ++ loop.events⟩ ∧
          quest.Course prepared.state scans loop ∧
          ∀ scan ∈ scans, (∃ candidates, quest.Sighting scan candidates) ∧
            (quest.resolution scan = none → quest.GoesOnAsIfVacant scan) := by
  intro prepared
  have hshown := (prepare_shows setup scanner name line world).1
  have hnotYet : timeOutNote name timeout ∉ prepared.events := by
    intro hmem
    rcases hshown _ hmem with hlevel | hsource
    · cases hlevel
    · cases hsource
  refine ⟨fun event hmem => ?_, ?_⟩
  · have hevent := hshown event hmem
    cases event <;> first | rfl | exact hevent.elim
  cases hresult : prepared.result with
  | error failure =>
      rw [discover_of_unprepared setup scanner name line known hresult] at hend
      rcases hend with hok | hlast
      · cases hok
      · exact absurd (List.mem_of_getLast? hlast) hnotYet
  | ok here =>
      have hdiscover :=
        discover_of_prepared setup scanner name line known hresult htimeout hinterval
      refine ⟨here, rfl, ?_⟩
      intro quest
      have hloop : EndsByItself name timeout
          (quest.run prepared.state.patience.pauses prepared.state) := by
        rw [hdiscover] at hend
        refine hend.imp_right fun hlast => ?_
        rw [List.getLast?_append, Option.or_eq_some_iff] at hlast
        rcases hlast with hlater | ⟨-, hearlier⟩
        · exact hlater
        · exact absurd (List.mem_of_getLast? hearlier) hnotYet
      obtain ⟨scans, hcourse⟩ := quest.exists_course _ _ hloop
      refine ⟨_, scans, hdiscover, hcourse, fun scan hscan => ?_⟩
      have hlook := hcourse.looks scan hscan
      refine ⟨quest.sighting hlook, fun hnone => ?_⟩
      rw [hnone] at hlook
      exact quest.goesOnAsIfVacant hlook

end Courses

/-- A desk with the scans and the replies that are yet to come. -/
abbrev ScriptDesk : Type := List (List Endpoint) × List (Scripted Rat Int)

def scriptedScanner : Scanner Rat ScriptDesk :=
  Scanner.scripted [] ⟨Prod.fst, fun polls desk => (polls, desk.2)⟩

def scriptedSetup : RunnerSetup Rat ScriptDesk where
  notifier := Notifier.scripted []
  chooser := Chooser.scripted ⟨Prod.snd, fun replies desk => (desk.1, replies)⟩
  isInstalled _ := true
  timeout := some 5
  interval := some 1

def leftCandidate : Endpoint := ⟨"http://127.0.0.1:4001/", by rfl⟩

def rightCandidate : Endpoint := ⟨"http://127.0.0.1:4002/", by rfl⟩

/-- A scan without candidates, one with a reply that is no index, and one with a reply that is. -/
def scriptedWorld : World Rat ScriptDesk where
  scene := ⟨⟨0, [], false, [], false, []⟩,
    [[], [leftCandidate, rightCandidate], [leftCandidate, rightCandidate]], [.ok 7, .ok 1]⟩
  processes := ⟨[], [], 5, [], [], "linux", true⟩
  patience := ⟨none, 9⟩
  paused := 0
  registry := Registry.empty

theorem discover_course_scriptedWorld :
    EndsByItself "a" 5 (discover scriptedSetup scriptedScanner "a" "srv" [] scriptedWorld) ∧
      ∃ (quest : Quest Rat ScriptDesk) (launched : World Rat ScriptDesk)
        (loop : Outcome (Event Rat) (World Rat ScriptDesk) (Failure Rat) Endpoint)
        (scans : List (World Rat ScriptDesk)),
        quest.Course launched scans loop ∧ loop.result = .ok rightCandidate := by
  have hresult : (discover scriptedSetup scriptedScanner "a" "srv" [] scriptedWorld).result =
      .ok rightCandidate := by
    have hfound :
        (discover scriptedSetup scriptedScanner "a" "srv" [] scriptedWorld).result.toOption =
          some rightCandidate := by decide +kernel
    cases hcase : (discover scriptedSetup scriptedScanner "a" "srv" [] scriptedWorld).result with
    | error failure =>
        rw [hcase] at hfound
        cases hfound
    | ok endpoint =>
        rw [hcase] at hfound
        exact congrArg Except.ok (Option.some.inj hfound)
  have hend : EndsByItself "a" 5
      (discover scriptedSetup scriptedScanner "a" "srv" [] scriptedWorld) := by
    left
    rw [hresult]
    rfl
  obtain ⟨-, here, -, loop, scans, hdiscover, hcourse, -⟩ :=
    discover_course scriptedSetup scriptedScanner "a" "srv" [] scriptedWorld rfl rfl hend
  rw [hdiscover] at hresult
  exact ⟨hend, _, _, loop, scans, hcourse, hresult⟩

end SubgraphLauncher
