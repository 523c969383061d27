import SubgraphLauncher.Proofs.Discovery.Events

/-!
# The turns of a search

A discovery prepares, which is a survey and the launch, and then searches. A search takes turns. In
each it looks, which is a scan with the choice among what the scan finds, and then it ends or rests
until the next turn. A look touches nothing of the world but the scene, and only through the scanner
and the chooser. `Quest.turn` lists the six ways in which a turn can go on; what depends on time, or
on the order of turns, goes by it and does not open `search`.
-/

namespace SubgraphLauncher

open SubgraphLauncher.Action RunnerAction

variable {τ σ : Type}

/-- What stays the same from turn to turn, with the two numbers that a search needs. -/
structure Quest (τ σ : Type) where
  setup : RunnerSetup τ σ
  scanner : Scanner τ σ
  name : String
  baseline : List Endpoint
  started : τ
  timeout : τ
  interval : τ
  timeout_eq : setup.timeout = some timeout
  interval_eq : setup.interval = some interval

section Definitions

variable [Moment τ]

def foundNote (name : String) (endpoint : Endpoint) : Event τ :=
  .record ⟨.info, .runner, "Found GraphQL endpoint " ++ endpoint.url ++ " for subgraph '" ++ name ++
    "'"⟩

def timeOutNote (name : String) (timeout : τ) : Event τ :=
  .record ⟨.error, .runner, "No GraphQL endpoint for subgraph '" ++ name ++ "' after " ++
    Moment.brief timeout ++ " seconds"⟩

/-- The world after a pause that nobody interrupted. -/
def World.rested (duration : τ) (world : World τ σ) : World τ σ :=
  { world with
    paused := world.paused + 1
    scene :=
      { world.scene with
        network := { world.scene.network with now := world.scene.network.now + duration } } }

namespace Quest

variable (quest : Quest τ σ)

/-- A scan, and the choice among what it finds. -/
def look : RunnerAction τ σ (Option Endpoint) := do
  Action.emit (.scanned quest.baseline)
  let candidates ← consult (quest.scanner.scan quest.baseline)
  pick quest.setup.chooser candidates

/-- What is left of the time. -/
def left (world : World τ σ) : τ := quest.timeout - (world.scene.network.now - quest.started)

/-- How long the search pauses after the scan that begins in a world. -/
def rest (world : World τ σ) : τ := shorter quest.interval (quest.left (quest.look world).state)

/-- The world in which the next scan begins. -/
def next (world : World τ σ) : World τ σ := (quest.look world).state.rested (quest.rest world)

def run (pauses : Nat) : RunnerAction τ σ Endpoint :=
  search quest.setup quest.scanner quest.name quest.baseline quest.started pauses

end Quest

end Definitions

/-! ### Looks -/

section Look

variable [Moment τ]

def candidatesNote (candidates : List Endpoint) : Record :=
  ⟨.debug, .runner, toString candidates.length ++ " candidate endpoints: " ++
    String.intercalate ", " (candidates.map (·.url))⟩

/-- What an answer of the chooser stands for. An aborted or an ordinary failure stands for no
candidate, as an index outside the list does. -/
def pickedBy (candidates : List Endpoint) :
    Except (Failure τ) Int → Except (Failure τ) (Option Endpoint)
  | .ok index => .ok (candidateAt? candidates index)
  | .error failure =>
    if failure.isAborted || failure.isOrdinary then .ok none else .error failure

/-- What is noted of an answer that stands for no candidate. -/
def answerNotes (candidates : List Endpoint) : Except (Failure τ) Int → List Record
  | .ok index =>
    match candidateAt? candidates index with
    | some _ => []
    | none => [⟨.debug, .runner, "Chooser returned out-of-range index " ++ toString index⟩]
  | .error failure =>
    if failure.isAborted then
      [⟨.debug, .runner, "Endpoint selection aborted: " ++ failure.message⟩]
    else if failure.isOrdinary then
      [⟨.debug, .runner, "Endpoint selection failed: " ++ failure.written⟩]
    else []

/-- What follows an answer of the chooser. -/
def settle (candidates : List Endpoint) :
    Except (Failure τ) Int → RunnerAction τ σ (Option Endpoint)
  | .error failure =>
    if failure.isAborted then do
      record .debug .runner ("Endpoint selection aborted: " ++ failure.message)
      return none
    else if failure.isOrdinary then do
      record .debug .runner ("Endpoint selection failed: " ++ failure.written)
      return none
    else Action.raise failure
  | .ok index =>
    match candidateAt? candidates index with
    | some endpoint => return some endpoint
    | none => do
      record .debug .runner ("Chooser returned out-of-range index " ++ toString index)
      return none

theorem settle_apply (candidates : List Endpoint) (answer : Except (Failure τ) Int)
    (world : World τ σ) :
    settle candidates answer world =
      ⟨pickedBy candidates answer, world, (answerNotes candidates answer).map .record⟩ := by
  cases answer with
  | ok index =>
      dsimp only [settle, pickedBy, answerNotes]
      cases candidateAt? candidates index <;> rfl
  | error failure =>
      dsimp only [settle, pickedBy, answerNotes]
      cases failure.isAborted with
      | true => rfl
      | false => cases failure.isOrdinary <;> rfl

/-- At most one candidate is not put to the chooser. -/
theorem pick_few (chooser : Chooser τ σ) {candidates : List Endpoint}
    (hfew : ¬ 2 ≤ candidates.length) (world : World τ σ) :
    pick chooser candidates world = ⟨.ok candidates.head?, world, []⟩ := by
  match candidates, hfew with
  | [], _ => rfl
  | [endpoint], _ => rfl
  | first :: second :: rest, hfew => exact absurd (Nat.le_add_left 2 rest.length) hfew

/-- Among several candidates the chooser is asked once, and its answer decides. -/
theorem pick_several (chooser : Chooser τ σ) {candidates : List Endpoint}
    (hseveral : 2 ≤ candidates.length) (world : World τ σ) :
    let answer := chooser.choose candidates world.scene
    pick chooser candidates world =
      ⟨pickedBy candidates answer.result, { world with scene := answer.state },
        .record (candidatesNote candidates) :: .asked candidates ::
          (answer.events.map .partner ++ (answerNotes candidates answer.result).map .record)⟩ := by
  obtain ⟨first, second, rest, rfl⟩ :
      ∃ first second rest, candidates = first :: second :: rest := by
    match candidates, hseveral with
    | first :: second :: rest, _ => exact ⟨first, second, rest, rfl⟩
  have hpick : pick chooser (first :: second :: rest) = (do
      emit (.record (candidatesNote (first :: second :: rest)))
      emit (.asked (first :: second :: rest))
      let answer ← (consult (chooser.choose (first :: second :: rest))).attempt
      settle (first :: second :: rest) answer) := rfl
  dsimp only
  rw [hpick]
  simp only [bind_apply, emit_apply, attempt_apply, consult, within_apply, settle_apply,
    List.cons_append, List.nil_append]

theorem Quest.look_apply (quest : Quest τ σ) (world : World τ σ) :
    quest.look world =
      let scan := quest.scanner.scan quest.baseline world.scene
      match scan.result with
      | .error failure =>
        ⟨.error failure, { world with scene := scan.state },
          .scanned quest.baseline :: scan.events.map .partner⟩
      | .ok candidates =>
        let choice := pick quest.setup.chooser candidates { world with scene := scan.state }
        ⟨choice.result, choice.state,
          .scanned quest.baseline :: (scan.events.map .partner ++ choice.events)⟩ := by
  unfold look
  simp only [bind_apply, emit_apply, consult, within_apply]
  cases (quest.scanner.scan quest.baseline world.scene).result <;> rfl

/-- What a look does that finds candidates. -/
theorem Quest.look_of_found (quest : Quest τ σ) {world : World τ σ} {candidates : List Endpoint}
    (hfound : (quest.scanner.scan quest.baseline world.scene).result = .ok candidates) :
    quest.look world =
      let scan := quest.scanner.scan quest.baseline world.scene
      let choice := pick quest.setup.chooser candidates { world with scene := scan.state }
      ⟨choice.result, choice.state,
        .scanned quest.baseline :: (scan.events.map .partner ++ choice.events)⟩ := by
  rw [look_apply]
  simp only [hfound]

theorem Quest.look_of_failed (quest : Quest τ σ) {world : World τ σ} {failure : Failure τ}
    (hfailed : (quest.scanner.scan quest.baseline world.scene).result = .error failure) :
    quest.look world =
      let scan := quest.scanner.scan quest.baseline world.scene
      ⟨.error failure, { world with scene := scan.state },
        .scanned quest.baseline :: scan.events.map .partner⟩ := by
  rw [look_apply]
  simp only [hfailed]

/-- A choice fails only as the user interrupts it. -/
theorem pick_failure {chooser : Chooser τ σ} {candidates : List Endpoint} {world : World τ σ}
    {failure : Failure τ} (hfailure : (pick chooser candidates world).result = .error failure) :
    failure.isOrdinary = false := by
  by_cases hseveral : 2 ≤ candidates.length
  · rw [pick_several chooser hseveral world] at hfailure
    dsimp only at hfailure
    unfold pickedBy at hfailure
    split at hfailure
    · cases hfailure
    · split at hfailure
      · cases hfailure
      · rename_i hforeign
        rw [← Except.error.inj hfailure]
        exact Bool.eq_false_iff.mpr fun hordinary => hforeign (by rw [hordinary, Bool.or_true])
  · rw [pick_few chooser hseveral world] at hfailure
    cases hfailure

/-- A look shows the scan first, and nothing of another scan. -/
theorem Quest.look_events (quest : Quest τ σ) (world : World τ σ) :
    ∃ rest, (quest.look world).events = .scanned quest.baseline :: rest ∧
      ∀ event ∈ rest, event.IsOfChoice := by
  have hpartner (events : List (PartnerEvent τ)) :
      ∀ event ∈ events.map Event.partner, event.IsOfChoice := by
    intro event hmem
    obtain ⟨partner, -, rfl⟩ := List.mem_map.mp hmem
    trivial
  rw [look_apply]
  dsimp only
  cases (quest.scanner.scan quest.baseline world.scene).result with
  | error failure => exact ⟨_, rfl, hpartner _⟩
  | ok candidates =>
      refine ⟨_, rfl, List.forall_mem_append.mpr ⟨hpartner _, ?_⟩⟩
      exact (pick_shows_choice quest.setup.chooser candidates _).1

theorem pick_state (chooser : Chooser τ σ) (candidates : List Endpoint) (world : World τ σ) :
    (pick chooser candidates world).state =
      { world with scene := (pick chooser candidates world).state.scene } := by
  by_cases hseveral : 2 ≤ candidates.length
  · rw [pick_several chooser hseveral world]
  · rw [pick_few chooser hseveral world]

/-- A look leaves all of the world alone but the scene. -/
theorem Quest.look_state (quest : Quest τ σ) (world : World τ σ) :
    (quest.look world).state = { world with scene := (quest.look world).state.scene } := by
  rw [look_apply]
  dsimp only
  cases (quest.scanner.scan quest.baseline world.scene).result with
  | error failure => rfl
  | ok candidates => exact pick_state _ _ _

theorem Quest.next_patience (quest : Quest τ σ) (world : World τ σ) :
    (quest.next world).patience = world.patience := by
  rw [next, quest.look_state world]
  rfl

theorem Quest.next_paused (quest : Quest τ σ) (world : World τ σ) :
    (quest.next world).paused = world.paused + 1 := by
  rw [next, quest.look_state world]
  rfl

end Look

/-! ### Turns -/

section Turn

variable [Moment τ]

/-- How a turn can go on that begins in a world, with patience for so many pauses. -/
inductive Quest.Turn (quest : Quest τ σ) (world : World τ σ) :
    Nat → Outcome (Event τ) (World τ σ) (Failure τ) Endpoint → Prop
  /-- The scanner or the chooser failed. -/
  | failed {pauses} (failure : Failure τ) (hlook : (quest.look world).result = .error failure) :
      quest.Turn world pauses
        ⟨.error failure, (quest.look world).state, (quest.look world).events⟩
  | found {pauses} (endpoint : Endpoint) (hlook : (quest.look world).result = .ok (some endpoint)) :
      quest.Turn world pauses
        ⟨.ok endpoint, (quest.look world).state,
          (quest.look world).events ++ [foundNote quest.name endpoint]⟩
  | timedOut {pauses} (hlook : (quest.look world).result = .ok none)
      (hleft : quest.left (quest.look world).state ≤ 0) :
      quest.Turn world pauses
        ⟨.error (.task (.discoveryTimeout quest.name quest.timeout)), (quest.look world).state,
          (quest.look world).events ++ [timeOutNote quest.name quest.timeout]⟩
  /-- One cannot pause for less than no time. -/
  | refused {pauses} (hlook : (quest.look world).result = .ok none)
      (hleft : ¬ quest.left (quest.look world).state ≤ 0) (hrest : quest.rest world < 0) :
      quest.Turn world pauses
        ⟨.error (.valueError "sleep length must be non-negative"), (quest.look world).state,
          (quest.look world).events⟩
  /-- The user has no patience for the pause, or interrupts it. -/
  | interrupted {pauses} (hlook : (quest.look world).result = .ok none)
      (hleft : ¬ quest.left (quest.look world).state ≤ 0) (hrest : ¬ quest.rest world < 0)
      (hstop : pauses = 0 ∨ world.patience.interruptAt = some (world.paused + 1)) :
      quest.Turn world pauses
        ⟨.error .interrupt,
          { (quest.look world).state with paused := (quest.look world).state.paused + 1 },
          (quest.look world).events ++ [.slept (quest.rest world)]⟩
  | again {pauses} (hlook : (quest.look world).result = .ok none)
      (hleft : ¬ quest.left (quest.look world).state ≤ 0) (hrest : ¬ quest.rest world < 0) :
      quest.Turn world (pauses + 1)
        ⟨(quest.run pauses (quest.next world)).result, (quest.run pauses (quest.next world)).state,
          (quest.look world).events ++ .slept (quest.rest world) ::
            (quest.run pauses (quest.next world)).events⟩

theorem pause_apply (duration : τ) (patient : Bool) (world : World τ σ) :
    pause duration patient world =
      if duration < 0 then
        ⟨.error (.valueError "sleep length must be non-negative"), world, []⟩
      else if !patient || world.patience.interruptAt == some (world.paused + 1) then
        ⟨.error .interrupt, { world with paused := world.paused + 1 }, [.slept duration]⟩
      else ⟨.ok (), world.rested duration, [.slept duration]⟩ := by
  unfold pause
  by_cases hnegative : duration < 0
  · simp only [hnegative, if_true, bind_apply, raise_apply]
  · simp only [hnegative, if_false, bind_apply, emit_apply, change_apply, current_apply]
    split
    · simp only [bind_apply, raise_apply, List.append_nil]
    · rfl

theorem pause_then_apply {α : Type} (patient : Bool) (onward : RunnerAction τ σ α) (duration : τ)
    (world : World τ σ) :
    (do pause duration patient; onward) world =
      if duration < 0 then
        ⟨.error (.valueError "sleep length must be non-negative"), world, []⟩
      else if !patient || world.patience.interruptAt == some (world.paused + 1) then
        ⟨.error .interrupt, { world with paused := world.paused + 1 }, [.slept duration]⟩
      else
        ⟨(onward (world.rested duration)).result, (onward (world.rested duration)).state,
          .slept duration :: (onward (world.rested duration)).events⟩ := by
  rw [bind_apply, pause_apply]
  by_cases hnegative : duration < 0
  · simp only [hnegative, if_true]
  · simp only [hnegative, if_false]
    cases !patient || world.patience.interruptAt == some (world.paused + 1) <;> rfl

namespace Quest

variable (quest : Quest τ σ) (again : τ → RunnerAction τ σ Endpoint)

/-- A scan, and then the end or `again`. -/
def turnThen : RunnerAction τ σ Endpoint :=
  scanThen quest.setup quest.scanner quest.name quest.baseline quest.started again

/-- What a search does after a look. -/
def settleLook : Option Endpoint → RunnerAction τ σ Endpoint
  | some endpoint => do
    emit (foundNote quest.name endpoint)
    return endpoint
  | none => do
    let remaining ← remainingTime quest.setup.timeout quest.started
    if remaining ≤ 0 then timeOut quest.setup quest.name
    else again (← nextPause quest.setup.interval remaining)

theorem turnThen_eq :
    quest.turnThen again = quest.look >>= quest.settleLook again := by
  simp only [turnThen, scanThen, look, bind_assoc]
  rfl

theorem settleLook_none_apply (world : World τ σ) :
    quest.settleLook again none world =
      if quest.left world ≤ 0 then
        ⟨.error (.task (.discoveryTimeout quest.name quest.timeout)), world,
          [timeOutNote quest.name quest.timeout]⟩
      else again (shorter quest.interval (quest.left world)) world := by
  have hremaining : remainingTime quest.setup.timeout quest.started world =
      ⟨.ok (quest.left world), world, []⟩ := by
    rw [quest.timeout_eq]
    rfl
  have htimeOut : timeOut quest.setup quest.name world =
      ⟨.error (.task (.discoveryTimeout quest.name quest.timeout)), world,
        [timeOutNote quest.name quest.timeout]⟩ := by
    unfold timeOut
    rw [quest.timeout_eq]
    rfl
  have hpause : nextPause quest.setup.interval (quest.left world) =
      (pure (shorter quest.interval (quest.left world)) : RunnerAction τ σ τ) := by
    rw [quest.interval_eq]
    rfl
  rw [settleLook, bind_apply, hremaining]
  dsimp only
  split
  · rw [htimeOut]
    rfl
  · rw [hpause, pure_bind]
    rfl

theorem turnThen_apply (world : World τ σ) :
    quest.turnThen again world =
      let looked := quest.look world
      match looked.result with
      | .error failure => ⟨.error failure, looked.state, looked.events⟩
      | .ok (some endpoint) =>
        ⟨.ok endpoint, looked.state, looked.events ++ [foundNote quest.name endpoint]⟩
      | .ok none =>
        if quest.left looked.state ≤ 0 then
          ⟨.error (.task (.discoveryTimeout quest.name quest.timeout)), looked.state,
            looked.events ++ [timeOutNote quest.name quest.timeout]⟩
        else
          let onward := again (quest.rest world) looked.state
          ⟨onward.result, onward.state, looked.events ++ onward.events⟩ := by
  rw [turnThen_eq, bind_apply]
  dsimp only
  rcases (quest.look world).result with failure | ⟨_ | endpoint⟩
  · rfl
  · dsimp only
    rw [settleLook_none_apply]
    split <;> rfl
  · rfl

/-- How a search goes on after a scan, with patience for so many pauses. -/
def resume : Nat → τ → RunnerAction τ σ Endpoint
  | 0, duration => do
    pause duration false
    Action.raise .interrupt
  | pauses + 1, duration => do
    pause duration true
    quest.run pauses

theorem run_eq_turnThen (pauses : Nat) :
    quest.run pauses = quest.turnThen (quest.resume pauses) := by
  cases pauses <;> rfl

/-- A turn goes on in one of six ways. -/
theorem turn (pauses : Nat) (world : World τ σ) :
    quest.Turn world pauses (quest.run pauses world) := by
  rw [run_eq_turnThen, turnThen_apply]
  dsimp only
  rcases hlook : (quest.look world).result with failure | ⟨_ | endpoint⟩
  · exact .failed failure hlook
  · by_cases hleft : quest.left (quest.look world).state ≤ 0
    · simp only [hleft, if_true]
      exact .timedOut hlook hleft
    · simp only [hleft, if_false]
      cases pauses with
      | zero =>
          rw [resume, pause_then_apply]
          by_cases hrest : quest.rest world < 0
          · simp only [hrest, if_true, List.append_nil]
            exact .refused hlook hleft hrest
          · simp only [hrest, if_false]
            exact .interrupted hlook hleft hrest (.inl rfl)
      | succ pauses =>
          rw [resume, pause_then_apply]
          by_cases hrest : quest.rest world < 0
          · simp only [hrest, if_true, List.append_nil]
            exact .refused hlook hleft hrest
          · simp only [hrest, if_false]
            split
            · next hstop =>
              rw [Bool.not_true, Bool.false_or, beq_iff_eq, quest.look_state world] at hstop
              exact .interrupted hlook hleft hrest (.inr hstop)
            · exact .again hlook hleft hrest
  · exact .found endpoint hlook

end Quest

theorem Quest.timeOutNote_not_mem_look (quest : Quest τ σ) (world : World τ σ) :
    timeOutNote quest.name quest.timeout ∉ (quest.look world).events := by
  obtain ⟨rest, hevents, hchoice⟩ := quest.look_events world
  rw [hevents]
  intro hmem
  rcases List.mem_cons.mp hmem with hscanned | hlater
  · cases hscanned
  · have hdebug : Level.error = Level.debug := hchoice _ hlater
    cases hdebug

end Turn

/-! ### Before the first turn -/

section Prepare

variable [Moment τ] (setup : RunnerSetup τ σ) (scanner : Scanner τ σ) (name line : String)

/-- What comes before the search: the survey and the launch. It yields what the survey has found. -/
def prepare : RunnerAction τ σ (List Endpoint) := do
  emit .surveyed
  let here ← consult scanner.survey
  spawn setup name line
  return here

/-- What is seen before the search. -/
def Event.IsOfPreparation : Event τ → Prop
  | .surveyed | .partner _ => True
  | event => event.IsOfLaunch

theorem prepare_shows :
    Shows Event.IsOfPreparation (fun _ => True) (prepare setup scanner name line) := by
  have hlaunch (event : Event τ) (hevent : event.IsOfLaunch) : event.IsOfPreparation := by
    cases event <;> trivial
  unfold prepare
  refine Shows.seq (shows_emit trivial) fun _ => ?_
  refine Shows.seq (shows_consult_of_partner (fun _ => trivial) _) fun here => ?_
  have hspawn := (spawn_shows setup name line).mono hlaunch fun _ htrue => htrue
  exact hspawn.seq fun _ => shows_pure trivial

theorem discover_eq (known : List Endpoint) :
    discover setup scanner name line known = (do
      let here ← prepare setup scanner name line
      let launched ← current
      search setup scanner name (baselineOf here known) launched.scene.network.now
        launched.patience.pauses) := by
  simp only [discover, prepare, bind_assoc, pure_bind]
  rfl

/-- The quest of a discovery whose launch has left a world behind. -/
def Quest.ofLaunch {timeout interval : τ} (htimeout : setup.timeout = some timeout)
    (hinterval : setup.interval = some interval) (baseline : List Endpoint)
    (launched : World τ σ) : Quest τ σ where
  setup := setup
  scanner := scanner
  name := name
  baseline := baseline
  started := launched.scene.network.now
  timeout := timeout
  interval := interval
  timeout_eq := htimeout
  interval_eq := hinterval

/-- A discovery that got as far as its search is the search that begins with the launch. -/
theorem discover_of_prepared (known : List Endpoint) {world : World τ σ} {here : List Endpoint}
    (hprepared : (prepare setup scanner name line world).result = .ok here) {timeout interval : τ}
    (htimeout : setup.timeout = some timeout) (hinterval : setup.interval = some interval) :
    let prepared := prepare setup scanner name line world
    let quest := Quest.ofLaunch setup scanner name htimeout hinterval (baselineOf here known)
      prepared.state
    let loop := quest.run prepared.state.patience.pauses prepared.state
    discover setup scanner name line known world =
      ⟨loop.result, loop.state, prepared.events ++ loop.events⟩ := by
  dsimp only
  rw [discover_eq, bind_apply, hprepared]
  rfl

theorem discover_of_unprepared (known : List Endpoint) {world : World τ σ} {failure : Failure τ}
    (hprepared : (prepare setup scanner name line world).result = .error failure) :
    discover setup scanner name line known world =
      ⟨.error failure, (prepare setup scanner name line world).state,
        (prepare setup scanner name line world).events⟩ := by
  rw [discover_eq, bind_apply, hprepared]

end Prepare

end SubgraphLauncher
