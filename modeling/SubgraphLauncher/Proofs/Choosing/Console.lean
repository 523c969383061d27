import SubgraphLauncher.Proofs.Choosing.Numerals

/-!
# The first answer that decides

The chooser reads answers until one decides. An answer that it refuses leaves a message, a note and
another prompt, and nothing else, so a whole choice is its list of candidates, one refusal for each
answer in front, and what comes of the first answer behind them: `exists_asked_of_refused` says so
by induction on the readings. An answer that stands for an index decides, and so does a failure of
the reader. A false numeral does neither and ends the choice as well, with a failure that is no
abort.
-/

namespace SubgraphLauncher

open SubgraphLauncher.Action

variable {τ σ : Type}

def PartnerEvent.isPrompt : PartnerEvent τ → Bool
  | .prompt _ => true
  | _ => false

/-- The lines of a text that is shown. -/
def textLines (text : String) : List (PartnerEvent τ) :=
  (Text.cut (· == '\n') text.toList).map fun line => .line (String.ofList line)

/-- The candidates under their title, with numbers from `number` on. -/
def choiceLines (number : Nat) (candidates : List Endpoint) : List (PartnerEvent τ) :=
  (candidates.mapIdx fun place endpoint => choiceText (number + place) endpoint).flatMap textLines

/-- A failure that the input can have: it has ended, was interrupted, or cannot be read. -/
def Failure.IsOfReader (failure : Failure τ) : Prop :=
  failure.className = "EOFError" ∨ failure.className = "KeyboardInterrupt" ∨
    failure.isIn .system = true ∨ failure.isIn .value = true

namespace Reading

/-- Whether a reading is an answer that stands for no candidate and is no false numeral. -/
def isRefused (count : Nat) : Reading τ → Bool
  | .text line =>
    let answer := Text.trim line.toList
    (choice? count answer).isNone && !isFalseNumeral answer
  | .failure _ => false

/-- What is seen of a refusal. -/
def refusal (count : Nat) : Reading τ → List (PartnerEvent τ)
  | .text line =>
    let answer := String.ofList (Text.trim line.toList)
    .prompt (choicePrompt count) :: (textLines ("'" ++ answer ++ "' is not a valid choice.") ++
      [.note .chooser ("Rejected endpoint choice: " ++ Text.quoted answer)])
  | .failure _ => []

end Reading

/-- What a choice among some candidates results in, if these readings are left and the first of them
is not refused: an index, or an abort, or the failure to read a false numeral. -/
inductive EndsWith [Moment τ] (count : Nat) : List (Reading τ) → Except (Failure τ) Nat → Prop
  | chosen {line : String} {rest : List (Reading τ)} {index : Nat} (hindex : index < count)
      (hchoice : choice? count (Text.trim line.toList) = some index)
      (hfalse : isFalseNumeral (Text.trim line.toList) = false) :
      EndsWith count (.text line :: rest) (.ok index)
  | misread {line : String} {rest : List (Reading τ)} {fault : Decimal.NumeralFault}
      (hfalse : isFalseNumeral (Text.trim line.toList) = true)
      (hfault : Decimal.readWhole (Text.trim line.toList) = .error fault) :
      EndsWith count (.text line :: rest)
        (.error (.valueError (wholeMessage (Text.trim line.toList) fault)))
  | unread {failure : Failure τ} {rest : List (Reading τ)} {message : String}
      (hreader : failure.IsOfReader) (hmessage : giveUp failure = .aborted (some message)) :
      EndsWith count (.failure failure :: rest) (.error (.aborted (some message)))
  | ended : EndsWith count [] (.error (.aborted (some "endpoint selection was aborted")))

/-! ### What is shown -/

section Shown

theorem showText_apply (text : String) (scene : Scene τ σ) :
    showText text scene = ⟨.ok (), scene, textLines text⟩ := by
  have hlines (lines : List (List Char)) :
      (showText.showLines lines : PartnerAction τ σ Unit) scene =
        ⟨.ok (), scene, lines.map fun line => .line (String.ofList line)⟩ := by
    induction lines with
    | nil => rfl
    | cons line rest ih =>
        rw [showText.showLines, bind_apply, emit_apply]
        dsimp only
        rw [ih]
        rfl
  exact hlines _

theorem showChoices_apply (number : Nat) (candidates : List Endpoint) (scene : Scene τ σ) :
    showChoices number candidates scene = ⟨.ok (), scene, choiceLines number candidates⟩ := by
  induction candidates generalizing number with
  | nil => rfl
  | cons endpoint rest ih =>
      rw [showChoices, bind_apply, showText_apply]
      dsimp only
      rw [ih, choiceLines, choiceLines, List.mapIdx_cons, List.flatMap_cons]
      simp only [Nat.add_assoc, Nat.add_comm 1, Nat.add_zero]

@[simp] theorem textLines_filter_isPrompt (text : String) :
    (textLines text : List (PartnerEvent τ)).filter PartnerEvent.isPrompt = [] := by
  rw [textLines, List.filter_eq_nil_iff]
  intro event hmem
  obtain ⟨line, -, rfl⟩ := List.mem_map.mp hmem
  exact Bool.false_ne_true

@[simp] theorem choiceLines_filter_isPrompt (number : Nat) (candidates : List Endpoint) :
    (choiceLines number candidates : List (PartnerEvent τ)).filter PartnerEvent.isPrompt = [] := by
  rw [choiceLines, List.filter_flatMap, List.flatMap_eq_nil_iff]
  exact fun text _ => textLines_filter_isPrompt text

/-- Each refusal prompts once. -/
theorem length_prompts_of_refused {count : Nat} {refused : List (Reading τ)}
    (hrefused : ∀ reading ∈ refused, reading.isRefused count = true) :
    ((refused.flatMap (·.refusal count)).filter PartnerEvent.isPrompt).length = refused.length := by
  induction refused with
  | nil => rfl
  | cons reading rest ih =>
      obtain ⟨hreading, hrest⟩ := List.forall_mem_cons.mp hrefused
      cases reading with
      | failure failure => cases hreading
      | text line =>
          rw [List.flatMap_cons, List.filter_append, List.length_append, ih hrest, Reading.refusal,
            List.filter_cons_of_pos rfl, List.filter_append, textLines_filter_isPrompt]
          exact Nat.add_comm _ _

end Shown

section Asking

variable [Moment τ] (slot : Slot σ (List (Reading τ))) (count : Nat)

/-- The scene after a reading was taken. -/
def Scene.read (rest : List (Reading τ)) (scene : Scene τ σ) : Scene τ σ :=
  { scene with desk := slot.put rest scene.desk }

/-- A refused answer is asked again. -/
theorem askChoice_of_refused {reading : Reading τ} (hrefused : reading.isRefused count = true)
    (rest : List (Reading τ)) (scene : Scene τ σ) :
    askChoice slot count (reading :: rest) scene =
      let onward := askChoice slot count rest (scene.read slot rest)
      ⟨onward.result, onward.state, reading.refusal count ++ onward.events⟩ := by
  cases reading with
  | failure failure => cases hrefused
  | text line =>
      rw [Reading.isRefused, Bool.and_eq_true, Option.isNone_iff_eq_none, Bool.not_eq_true']
        at hrefused
      obtain ⟨hchoice, hfalse⟩ := hrefused
      have hjudge : judge count (Text.trim line.toList) = .rejected := by
        rw [judge_eq count hfalse, hchoice]
        rfl
      rw [askChoice]
      simp only [bind_apply, emit_apply, PartnerAction.keep, change_apply, hjudge, showText_apply,
        PartnerAction.note, Scene.read, Reading.refusal, List.nil_append, List.cons_append,
        List.append_assoc]

/-- However many answers are refused, the choice goes on with the first that is not. -/
theorem exists_asked_of_refused
    (hslot : ∀ readings desk, slot.get (slot.put readings desk) = readings)
    {readings : List (Reading τ)} {scene : Scene τ σ} (hdesk : slot.get scene.desk = readings) :
    let rest := readings.dropWhile (·.isRefused count)
    ∃ later : Scene τ σ, slot.get later.desk = rest ∧
      askChoice slot count readings scene =
        let onward := askChoice slot count rest later
        ⟨onward.result, onward.state,
          (readings.takeWhile (·.isRefused count)).flatMap (·.refusal count) ++ onward.events⟩ := by
  -- each refusal leaves a scene of its own, in which the desk holds what is still to be read
  induction readings generalizing scene with
  | nil => exact ⟨scene, hdesk, rfl⟩
  | cons reading rest ih =>
      cases hrefused : reading.isRefused count with
      | false =>
          simp only [List.dropWhile_cons, List.takeWhile_cons, hrefused, Bool.false_eq_true,
            if_false]
          exact ⟨scene, hdesk, rfl⟩
      | true =>
          have hkept : slot.get (scene.read slot rest).desk = rest := hslot _ _
          obtain ⟨later, hlater, hasked⟩ := ih hkept
          simp only [List.dropWhile_cons, List.takeWhile_cons, hrefused, if_true]
          refine ⟨later, hlater, ?_⟩
          rw [askChoice_of_refused slot count hrefused, hasked]
          dsimp only
          rw [List.flatMap_cons, List.append_assoc]

/-! ### The reading that ends the choice -/

section Ending

variable {rest : List (Reading τ)} {scene : Scene τ σ}

theorem exists_aborted_of_reader {failure : Failure τ} (hreader : failure.IsOfReader) :
    ∃ message, giveUp failure = .aborted (some message) := by
  unfold giveUp
  split
  · exact ⟨_, rfl⟩
  rename_i hnamed
  refine ⟨_, if_pos ?_⟩
  rw [Bool.or_eq_true]
  rcases hreader with hended | hinterrupted | hfamily
  · exact absurd (.inl hended) hnamed
  · exact absurd (.inr hinterrupted) hnamed
  · exact hfamily

theorem askChoice_of_failure (failure : Failure τ) :
    askChoice slot count (.failure failure :: rest) scene =
      ⟨.error (giveUp failure), scene.read slot rest, [.prompt (choicePrompt count)]⟩ := rfl

theorem askChoice_of_choice {line : String} {index : Nat}
    (hfalse : isFalseNumeral (Text.trim line.toList) = false)
    (hchoice : choice? count (Text.trim line.toList) = some index) :
    askChoice slot count (.text line :: rest) scene =
      ⟨.ok index, scene.read slot rest, [.prompt (choicePrompt count)]⟩ := by
  have hjudge : judge count (Text.trim line.toList) = .chosen index := by
    rw [judge_eq count hfalse, hchoice]
    rfl
  rw [askChoice]
  simp only [bind_apply, emit_apply, PartnerAction.keep, change_apply, hjudge]
  rfl

theorem askChoice_of_falseNumeral {line : String}
    (hfalse : isFalseNumeral (Text.trim line.toList) = true) :
    ∃ fault, Decimal.readWhole (Text.trim line.toList) = .error fault ∧
      askChoice slot count (.text line :: rest) scene =
        ⟨.error (.valueError (wholeMessage (Text.trim line.toList) fault)), scene.read slot rest,
          [.prompt (choicePrompt count)]⟩ := by
  obtain ⟨fault, hfault, hjudge⟩ := judge_of_falseNumeral count hfalse
  refine ⟨fault, hfault, ?_⟩
  rw [askChoice]
  simp only [bind_apply, emit_apply, PartnerAction.keep, change_apply, hjudge]
  rfl

/-- The first reading that is not refused ends the choice. -/
theorem askChoice_endsWith (hcount : 0 < count)
    (hslot : ∀ readings desk, slot.get (slot.put readings desk) = readings)
    (hdesk : slot.get scene.desk = rest)
    (hreader : ∀ failure, .failure failure ∈ rest → failure.IsOfReader)
    (hfirst : ∀ reading, rest.head? = some reading → reading.isRefused count = false) :
    let run := askChoice slot count rest scene
    run.events = [.prompt (choicePrompt count)] ∧ slot.get run.state.desk = rest.tail ∧
      EndsWith count rest run.result := by
  cases rest with
  | nil => exact ⟨rfl, hdesk, .ended⟩
  | cons reading rest =>
      cases reading with
      | failure failure =>
          have hexpected := hreader failure List.mem_cons_self
          obtain ⟨message, hmessage⟩ := exists_aborted_of_reader hexpected
          rw [askChoice_of_failure, hmessage]
          exact ⟨rfl, hslot _ _, .unread hexpected hmessage⟩
      | text line =>
          cases hfalse : isFalseNumeral (Text.trim line.toList) with
          | true =>
              obtain ⟨fault, hfault, hasked⟩ := askChoice_of_falseNumeral slot count hfalse
              rw [hasked]
              exact ⟨rfl, hslot _ _, .misread hfalse hfault⟩
          | false =>
              have hchoice : choice? count (Text.trim line.toList) ≠ none := by
                intro hnone
                have hrefused := hfirst _ rfl
                rw [Reading.isRefused, hnone, hfalse] at hrefused
                cases hrefused
              obtain ⟨index, hindex⟩ := Option.ne_none_iff_exists'.mp hchoice
              rw [askChoice_of_choice slot count hfalse hindex]
              exact ⟨rfl, hslot _ _, .chosen (choice?_lt count hcount hindex) hindex hfalse⟩

end Ending

/-! ### The whole choice -/

theorem askChoice_endsWith_first (hcount : 0 < count)
    (hslot : ∀ readings desk, slot.get (slot.put readings desk) = readings)
    {readings : List (Reading τ)} {scene : Scene τ σ} (hdesk : slot.get scene.desk = readings)
    (hreader : ∀ failure, .failure failure ∈ readings → failure.IsOfReader) :
    let rest := readings.dropWhile (·.isRefused count)
    let run := askChoice slot count readings scene
    run.events = (readings.takeWhile (·.isRefused count)).flatMap (·.refusal count) ++
        [.prompt (choicePrompt count)] ∧
      slot.get run.state.desk = rest.tail ∧ EndsWith count rest run.result := by
  intro rest run
  obtain ⟨later, hlater, hasked⟩ := exists_asked_of_refused slot count hslot hdesk
  have hfirst : ∀ reading, rest.head? = some reading → reading.isRefused count = false := by
    intro reading hreading
    have hhead := List.head?_dropWhile_not (·.isRefused count) readings
    rwa [hreading] at hhead
  have hexpected : ∀ failure, .failure failure ∈ rest → failure.IsOfReader :=
    fun failure hmem => hreader failure ((List.dropWhile_suffix _).subset hmem)
  obtain ⟨hprompt, hleft, hends⟩ :=
    askChoice_endsWith slot count hcount hslot hlater hexpected hfirst
  have hrun : run = _ := hasked
  rw [hrun]
  exact ⟨congrArg (_ ++ ·) hprompt, hleft, hends⟩

variable (terminal : Terminal) (required : Bool) (candidates : List Endpoint)

/-- With candidates and a terminal, the choice is shown and asked. -/
theorem chooseOnConsole_apply (hcandidates : candidates ≠ [])
    (hterminal : required = true → terminal.isInteractive = true) (scene : Scene τ σ) :
    chooseOnConsole terminal required slot candidates scene =
      let asked := askChoice slot candidates.length (slot.get scene.desk) scene
      ⟨asked.result, asked.state,
        textLines choiceTitle ++ choiceLines 1 candidates ++ asked.events⟩ := by
  have hgiven : candidates.isEmpty = false := by simpa using hcandidates
  have hseated : (required && !terminal.isInteractive) = false := by
    cases required with
    | false => rfl
    | true => rw [hterminal rfl]; rfl
  unfold chooseOnConsole
  simp only [hgiven, hseated, Bool.false_eq_true, if_false]
  simp only [bind_apply, showText_apply, showChoices_apply, PartnerAction.fetch, current_apply,
    pure_apply, List.nil_append, List.append_assoc]

/-- A choice prompts once for every answer that it reads. The first answer that is not refused ends
it: an answer that stands for a candidate chooses it, and if there is no such answer but a failure
of the reader, the choice is given up. Only a false numeral makes it fail otherwise. -/
theorem chooseOnConsole_ends_with_first
    (hslot : ∀ readings desk, slot.get (slot.put readings desk) = readings)
    (hcandidates : candidates ≠ [])
    (hterminal : required = true → terminal.isInteractive = true) (scene : Scene τ σ)
    (hreader : ∀ failure, .failure failure ∈ slot.get scene.desk → failure.IsOfReader) :
    let count := candidates.length
    let readings := slot.get scene.desk
    let refused := readings.takeWhile (·.isRefused count)
    let rest := readings.dropWhile (·.isRefused count)
    let run := chooseOnConsole terminal required slot candidates scene
    run.events = textLines choiceTitle ++ choiceLines 1 candidates ++
        refused.flatMap (·.refusal count) ++ [.prompt (choicePrompt count)] ∧
      (run.events.filter PartnerEvent.isPrompt).length = refused.length + 1 ∧
      slot.get run.state.desk = rest.tail ∧
      EndsWith count rest run.result := by
  intro count readings refused rest run
  have hcount : 0 < count := List.length_pos_iff.mpr hcandidates
  obtain ⟨hevents, hleft, hends⟩ :=
    askChoice_endsWith_first slot count hcount hslot (rfl : slot.get scene.desk = readings) hreader
  have hprompts : ((refused.flatMap (·.refusal count)).filter PartnerEvent.isPrompt).length =
      refused.length :=
    length_prompts_of_refused fun reading hmem => List.mem_takeWhile_imp hmem
  have hrun : run = _ :=
    chooseOnConsole_apply slot terminal required candidates hcandidates hterminal scene
  have hshown : run.events = textLines choiceTitle ++ choiceLines 1 candidates ++
      refused.flatMap (·.refusal count) ++ [.prompt (choicePrompt count)] := by
    rw [hrun, List.append_assoc _ (List.flatMap _ _)]
    exact congrArg (_ ++ ·) hevents
  refine ⟨hshown, ?_, hrun ▸ hleft, hrun ▸ hends⟩
  rw [hshown, List.filter_append, List.filter_append, List.filter_append, List.length_append,
    List.length_append, hprompts, textLines_filter_isPrompt, choiceLines_filter_isPrompt]
  exact congrArg (· + 1) (Nat.zero_add _)

end Asking

/-- A desk with nothing on it but the readings. -/
def readingSlot : Slot (List (Reading Rat)) (List (Reading Rat)) := ⟨id, fun readings _ => readings⟩

def pairOfCandidates : List Endpoint :=
  [⟨"http://localhost:4001/", by rfl⟩, ⟨"http://localhost:4002/", by rfl⟩]

def readingScene (lines : List String) : Scene Rat (List (Reading Rat)) :=
  ⟨⟨0, [], false, [], false, []⟩, lines.map .text⟩

/-- A number that is not listed and a word are refused, and the third answer chooses. -/
theorem ends_with_first_listed :
    let readings := (readingScene ["9", "abc", " 2 "]).desk
    let run := chooseOnConsole .interactive true readingSlot pairOfCandidates
      (readingScene ["9", "abc", " 2 "])
    pairOfCandidates ≠ [] ∧ Terminal.interactive.isInteractive = true ∧
      (∀ failure, .failure failure ∈ readings → failure.IsOfReader) ∧
      (run.events.filter PartnerEvent.isPrompt).length = 3 ∧ run.result = .ok 1 := by
  intro readings run
  have hreader : ∀ failure, .failure failure ∈ readings → failure.IsOfReader := by
    intro failure hmem
    obtain ⟨line, -, hline⟩ := List.mem_map.mp hmem
    cases hline
  have hnine : (Reading.text "9" : Reading Rat).isRefused 2 = true := by decide +kernel
  have hword : (Reading.text "abc" : Reading Rat).isRefused 2 = true := by decide +kernel
  have hlisted : (Reading.text " 2 " : Reading Rat).isRefused 2 = false := by decide +kernel
  have hchoice : choice? 2 (Text.trim " 2 ".toList) = some 1 := by decide +kernel
  have hreadings : readingSlot.get (readingScene ["9", "abc", " 2 "]).desk =
      [.text "9", .text "abc", .text " 2 "] := rfl
  obtain ⟨-, hprompts, -, hends⟩ := chooseOnConsole_ends_with_first readingSlot .interactive true
    pairOfCandidates (fun _ _ => rfl) (List.cons_ne_nil _ _) (fun _ => rfl)
    (readingScene ["9", "abc", " 2 "]) hreader
  rw [hreadings] at hprompts hends
  have hcount : pairOfCandidates.length = 2 := rfl
  simp only [hcount, List.takeWhile_cons, List.dropWhile_cons, hnine, hword, hlisted, if_true,
    Bool.false_eq_true, if_false, List.length_cons, List.length_nil] at hprompts hends
  refine ⟨List.cons_ne_nil _ _, rfl, hreader, hprompts, ?_⟩
  have hresult (result : Except (Failure Rat) Nat) (hend : EndsWith 2 [.text " 2 "] result) :
      result = .ok 1 := by
    cases hend with
    | chosen _ hindex _ => rw [Option.some.inj (hindex.symm.trans hchoice)]
    | misread hfalse _ => exact absurd hfalse (by decide +kernel)
  exact hresult _ hends

/-- A superscript stands for no candidate, but it is not asked again. -/
theorem superscript_ends_choice :
    choice? 2 (Text.trim "²".toList) = none ∧ choice? 2 (Text.trim "2".toList) = some 1 ∧
      (chooseOnConsole .interactive true readingSlot pairOfCandidates
        (readingScene ["²", "2"])).result =
          .error (.valueError "invalid literal for int() with base 10: '²'") := by
  refine ⟨by decide +kernel, by decide +kernel, ?_⟩
  decide +kernel

end SubgraphLauncher
