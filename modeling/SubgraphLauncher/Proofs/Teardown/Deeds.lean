import SubgraphLauncher.Proofs.Teardown.Pass

/-!
# What is seen of a pass

The events of a pass, read in three ways: what it does to others (announcing, signalling, looking
at a child), what it warns of, and what the notifier did meanwhile. Each reading of a task is a few
events that its notice and its signal decide, so a reading of the pass is those of its tasks put
together.
-/

namespace SubgraphLauncher

variable {τ σ : Type}

/-- Whether an event is something done to others. -/
def Event.isDeed : Event τ → Bool
  | .announced _ | .signalled _ _ | .polled _ => true
  | _ => false

def Event.isWarning (event : Event τ) : Bool :=
  event.record?.any fun record => record.level == .warning

def Event.partner? : Event τ → Option (PartnerEvent τ)
  | .partner event => some event
  | _ => none

/-! ### The notifier's own events -/

@[simp] theorem filter_isDeed_partner (events : List (PartnerEvent τ)) :
    (events.map Event.partner).filter Event.isDeed = [] := by
  simp [Event.isDeed]

@[simp] theorem filter_isWarning_partner (events : List (PartnerEvent τ)) :
    (events.map Event.partner).filter Event.isWarning = [] := by
  rw [List.filter_map, List.map_eq_nil_iff, List.filter_eq_nil_iff]
  intro event _
  cases event <;> simp [Event.isWarning, Event.record?]

@[simp] theorem filterMap_partner?_partner (events : List (PartnerEvent τ)) :
    (events.map Event.partner).filterMap Event.partner? = events := by
  rw [List.filterMap_map]
  exact List.filterMap_some

/-! ### The looks at the children -/

@[simp] theorem filter_isDeed_polled (tasks : List Task) :
    (tasks.map fun task => (.polled task.pid : Event τ)).filter Event.isDeed =
      tasks.map fun task => .polled task.pid := by
  rw [List.filter_eq_self]
  intro event hmem
  obtain ⟨task, _, rfl⟩ := List.mem_map.mp hmem
  rfl

@[simp] theorem filter_isWarning_polled (tasks : List Task) :
    (tasks.map fun task => (.polled task.pid : Event τ)).filter Event.isWarning = [] := by
  rw [List.filter_eq_nil_iff]
  intro event hmem
  obtain ⟨task, _, rfl⟩ := List.mem_map.mp hmem
  exact Bool.false_ne_true

@[simp] theorem filterMap_partner?_polled (tasks : List Task) :
    (tasks.map fun task => (.polled task.pid : Event τ)).filterMap Event.partner? = [] := by
  rw [List.filterMap_eq_nil_iff]
  intro event hmem
  obtain ⟨task, _, rfl⟩ := List.mem_map.mp hmem
  rfl

/-! ### One task -/

/-- The signal of a strike, if there is one. -/
def Strike.deeds (pid : Int) : Strike → List (Event τ)
  | absent => []
  | delivered => [.signalled pid none]
  | refused fault => [.signalled pid (some fault)]

/-- What a pass does to others about a task. -/
def Notice.deeds (strike : Int → Strike) (notice : Notice τ σ) : List (Event τ) :=
  .announced notice.task.name ::
    if notice.failure?.isSome then [] else (strike notice.task.pid).deeds notice.task.pid

section Readings

variable [Moment τ]

@[simp] theorem Strike.events_filter_isDeed (task : Task) (strike : Strike) :
    (strike.events task : List (Event τ)).filter Event.isDeed = strike.deeds task.pid := by
  rcases strike with _ | _ | _ | _ | _ | _ | _ <;> rfl

@[simp] theorem Strike.events_filter_isWarning (task : Task) (strike : Strike) :
    (strike.events task : List (Event τ)).filter Event.isWarning = strike.warnings task.pid := by
  rcases strike with _ | _ | _ | _ | _ | _ | _ <;> rfl

@[simp] theorem Strike.events_filterMap_partner? (task : Task) (strike : Strike) :
    (strike.events task : List (Event τ)).filterMap Event.partner? = [] := by
  rcases strike with _ | _ | _ | _ | _ | _ | _ <;> rfl

namespace Notice

variable (notice : Notice τ σ) (strike : Int → Strike)

theorem warnings_eq_nil_or :
    notice.warnings = [] ∨
      ∃ failure, notice.warnings = [noticeWarning notice.task.name failure] := by
  unfold warnings
  cases notice.outcome.result with
  | ok _ => exact .inl rfl
  | error failure =>
      by_cases hordinary : failure.isOrdinary
      · exact .inr ⟨failure, if_pos hordinary⟩
      · exact .inl (if_neg hordinary)

theorem warnings_filter_isDeed : notice.warnings.filter Event.isDeed = [] := by
  rcases notice.warnings_eq_nil_or with hnone | ⟨failure, hone⟩
  · rw [hnone, List.filter_nil]
  · rw [hone]
    rfl

theorem warnings_filter_isWarning :
    notice.warnings.filter Event.isWarning = notice.warnings := by
  rcases notice.warnings_eq_nil_or with hnone | ⟨failure, hone⟩
  · rw [hnone, List.filter_nil]
  · rw [hone]
    rfl

theorem warnings_filterMap_partner? : notice.warnings.filterMap Event.partner? = [] := by
  rcases notice.warnings_eq_nil_or with hnone | ⟨failure, hone⟩
  · rw [hnone, List.filterMap_nil]
  · rw [hone]
    rfl

theorem passEvents_filter_isDeed :
    (notice.passEvents strike).filter Event.isDeed = notice.deeds strike := by
  have hannounced : (Event.announced notice.task.name : Event τ).isDeed = true := rfl
  simp only [passEvents, events, deeds, List.cons_append, List.filter_cons, hannounced, if_true,
    List.filter_append, filter_isDeed_partner, warnings_filter_isDeed, List.nil_append]
  split
  · rfl
  · rw [Strike.events_filter_isDeed]

theorem passEvents_filter_isWarning :
    (notice.passEvents strike).filter Event.isWarning =
      notice.warnings ++ if notice.failure?.isSome then []
        else (strike notice.task.pid).warnings notice.task.pid := by
  have hannounced : (Event.announced notice.task.name : Event τ).isWarning = false := rfl
  simp only [passEvents, events, List.cons_append, List.filter_cons, hannounced,
    Bool.false_eq_true, if_false, List.filter_append, filter_isWarning_partner,
    warnings_filter_isWarning, List.nil_append]
  split
  · rfl
  · rw [Strike.events_filter_isWarning]

theorem passEvents_filterMap_partner? :
    (notice.passEvents strike).filterMap Event.partner? = notice.outcome.events := by
  have hannounced : (Event.announced notice.task.name : Event τ).partner? = none := rfl
  simp only [passEvents, events, List.cons_append, List.filterMap_cons, hannounced,
    List.filterMap_append, filterMap_partner?_partner, warnings_filterMap_partner?,
    List.append_nil]
  split
  · exact List.append_nil _
  · rw [Strike.events_filterMap_partner?, List.append_nil]

end Notice

end Readings

/-! ### The process table is read once -/

section Refresh

variable [Moment τ]

/-- The only other records of the part that reads the table are about signals, and they end in
another way. -/
private theorem refusalNote_ne_refreshNote (fault : ProcessFault) (pid : Int) (count : Nat) :
    (refusalNote fault pid : Event τ) ≠ refreshNote count := by
  intro heq
  have hmessage := congrArg (fun event => event.record?.map (·.message.toList)) heq
  simp only [refusalNote, refreshNote, Event.record?, Option.map_some, Option.some.injEq]
    at hmessage
  have hend := congrArg (fun text => text.reverse.take 2) hmessage
  cases fault <;> simp at hmessage hend

theorem refreshNote_not_mem_strikeEvents (count : Nat) (task : Task) (strike : Strike) :
    refreshNote count ∉ (strike.events task : List (Event τ)) := by
  have hsource (level : Level) (message : String) :
      (refreshNote count : Event τ) ≠ .record ⟨level, .runner, message⟩ := by
    intro heq
    cases heq
  cases strike with
  | absent => simp [Strike.events, absentNote, hsource]
  | delivered => simp [Strike.events, refreshNote]
  | refused fault =>
      have hnote := (refusalNote_ne_refreshNote (τ := τ) fault task.pid count).symm
      cases fault <;> simp_all [Strike.events, strikeWarning]
      all_goals simp [refreshNote]

theorem refreshNote_not_mem_passEvents (count : Nat) (strike : Int → Strike)
    (notice : Notice τ σ) : refreshNote count ∉ notice.passEvents strike := by
  intro hmem
  rw [Notice.passEvents, List.mem_append] at hmem
  rcases hmem with hnotice | hstrike
  · rw [Notice.events, List.mem_cons, List.mem_append, List.mem_map] at hnotice
    rcases hnotice with heq | ⟨_, _, heq⟩ | hwarning
    · cases heq
    · cases heq
    · rcases notice.warnings_eq_nil_or with hnone | ⟨failure, hone⟩
      · rw [hnone] at hwarning
        cases hwarning
      · rw [hone, List.mem_singleton] at hwarning
        cases hwarning
  · split at hstrike
    · cases hstrike
    · exact refreshNote_not_mem_strikeEvents count _ _ hstrike

end Refresh

end SubgraphLauncher
