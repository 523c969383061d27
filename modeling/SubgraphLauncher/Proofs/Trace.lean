import SubgraphLauncher.Proofs.Frame

/-!
# What an action is seen to do, and what it yields

The counterpart of a frame: an action shows events of one kind only, on every way out, and what it
yields, if it yields something, is of a kind as well. A sequence shows what its parts show, where
the later part may rely on what the earlier one has yielded.
-/

namespace SubgraphLauncher

variable {τ σ : Type}

namespace Action

variable {ω ε α β : Type} {seen : ω → Prop} {yields : α → Prop} {yields' : β → Prop}

/-- All events of an action are of one kind, and its result, if it has one, is of another. -/
def Shows (seen : ω → Prop) (yields : α → Prop) (x : Action ω σ ε α) : Prop :=
  ∀ s, (∀ event ∈ (x s).events, seen event) ∧ ∀ a, (x s).result = .ok a → yields a

theorem shows_pure {a : α} (ha : yields a) : Shows seen yields (pure a : Action ω σ ε α) := by
  intro s
  refine ⟨List.forall_mem_nil _, fun b hb => ?_⟩
  cases hb
  exact ha

theorem shows_raise (failure : ε) : Shows seen yields (raise failure : Action ω σ ε α) := by
  intro s
  refine ⟨List.forall_mem_nil _, fun a ha => ?_⟩
  cases ha

theorem shows_emit {event : ω} (hevent : seen event) :
    Shows seen (fun _ => True) (emit event : Action ω σ ε Unit) :=
  fun _ => ⟨List.forall_mem_singleton.mpr hevent, fun _ _ => trivial⟩

theorem shows_current : Shows seen (fun _ => True) (current : Action ω σ ε σ) :=
  fun _ => ⟨List.forall_mem_nil _, fun _ _ => trivial⟩

theorem shows_change (f : σ → σ) :
    Shows seen (fun _ => True) (change f : Action ω σ ε Unit) :=
  fun _ => ⟨List.forall_mem_nil _, fun _ _ => trivial⟩

theorem Shows.mono {seen' : ω → Prop} {weaker : α → Prop} {x : Action ω σ ε α}
    (hx : Shows seen yields x) (hseen : ∀ event, seen event → seen' event)
    (hyields : ∀ a, yields a → weaker a) : Shows seen' weaker x :=
  fun s => ⟨fun event hmem => hseen event ((hx s).1 event hmem),
    fun a ha => hyields a ((hx s).2 a ha)⟩

theorem Shows.attempt {x : Action ω σ ε α} (hx : Shows seen yields x) :
    Shows seen (fun result => ∀ a, result = .ok a → yields a) x.attempt := by
  intro s
  refine ⟨(hx s).1, fun result hresult => ?_⟩
  cases hresult
  exact (hx s).2

theorem Shows.bind {x : Action ω σ ε α} {f : α → Action ω σ ε β} (hx : Shows seen yields x)
    (hf : ∀ a, yields a → Shows seen yields' (f a)) : Shows seen yields' (x >>= f) := by
  intro s
  obtain ⟨hevents, hresult⟩ := hx s
  rw [bind_apply]
  cases hcase : (x s).result with
  | error failure => exact ⟨hevents, fun b hb => by cases hb⟩
  | ok a =>
      obtain ⟨hevents', hresult'⟩ := hf a (hresult a hcase) (x s).state
      exact ⟨List.forall_mem_append.mpr ⟨hevents, hevents'⟩, hresult'⟩

/-- Whatever the earlier part yields, the later part shows no more. -/
theorem Shows.seq {x : Action ω σ ε α} {f : α → Action ω σ ε β}
    (hx : Shows seen (fun _ => True) x) (hf : ∀ a, Shows seen yields' (f a)) :
    Shows seen yields' (x >>= f) :=
  hx.bind fun a _ => hf a

theorem Shows.mapM {f : α → Action ω σ ε β} (hf : ∀ a, Shows seen (fun _ => True) (f a))
    (xs : List α) : Shows seen (fun _ => True) (xs.mapM f) := by
  induction xs with
  | nil => exact shows_pure trivial
  | cons first rest ih =>
      rw [List.mapM_cons]
      exact (hf first).seq fun _ => ih.seq fun _ => shows_pure trivial

/-- What follows an action and is silent shows in no events. -/
theorem events_bind {f : α → Action ω σ ε β} (hf : ∀ a s, (f a s).events = [])
    (x : Action ω σ ε α) (s : σ) : ((x >>= f) s).events = (x s).events := by
  rw [bind_apply]
  cases (x s).result with
  | error failure => rfl
  | ok a =>
      dsimp only
      rw [hf, List.append_nil]

/-- What turns the result of an action into another one neither fails nor shows. -/
theorem bind_pure_apply (x : Action ω σ ε α) (f : α → β) (s : σ) :
    (x >>= fun a => pure (f a)) s = ⟨(x s).result.map f, (x s).state, (x s).events⟩ := by
  rw [bind_apply]
  cases (x s).result with
  | error failure => rfl
  | ok a =>
      dsimp only
      rw [pure_apply, List.append_nil]
      rfl

/-- What is seen of an action is seen of a sequence that begins with it. -/
theorem mem_events_bind {x : Action ω σ ε α} {s : σ} {event : ω} (hevent : event ∈ (x s).events)
    (f : α → Action ω σ ε β) : event ∈ ((x >>= f) s).events := by
  rw [bind_apply]
  cases (x s).result with
  | error failure => exact hevent
  | ok a => exact List.mem_append_left _ hevent

/-- What a function makes of a result, it makes of something. -/
theorem exists_of_map {result : Except ε α} {f : α → β} {b : β} (hb : result.map f = .ok b) :
    ∃ a, result = .ok a ∧ f a = b := by
  cases result with
  | error failure => cases hb
  | ok a => exact ⟨a, rfl, Except.ok.inj hb⟩

/-- Where a sequence has a result, its parts have one. -/
theorem result_bind {x : Action ω σ ε α} {f : α → Action ω σ ε β} {s : σ} {b : β}
    (hb : ((x >>= f) s).result = .ok b) :
    ∃ a, (x s).result = .ok a ∧ (f a (x s).state).result = .ok b := by
  rw [bind_apply] at hb
  cases hcase : (x s).result with
  | error failure =>
      rw [hcase] at hb
      cases hb
  | ok a =>
      rw [hcase] at hb
      exact ⟨a, rfl, hb⟩

/-- Where an action has a result for each of a list, all of them are there. -/
theorem mem_result_mapM {f : α → Action ω σ ε β} {xs : List α} {s : σ} {ys : List β}
    (hys : (xs.mapM f s).result = .ok ys) {a : α} (ha : a ∈ xs) :
    ∃ b ∈ ys, ∃ s', (f a s').result = .ok b := by
  induction xs generalizing s ys with
  | nil => cases ha
  | cons first rest ih =>
      rw [List.mapM_cons] at hys
      obtain ⟨b, hb, hrest⟩ := result_bind hys
      obtain ⟨more, hmore, hwhole⟩ := result_bind hrest
      obtain rfl : b :: more = ys := Except.ok.inj hwhole
      rcases List.mem_cons.mp ha with rfl | hlater
      · exact ⟨b, List.mem_cons_self, _, hb⟩
      · obtain ⟨found, hfound, hresult⟩ := ih hmore hlater
        exact ⟨found, List.mem_cons_of_mem b hfound, hresult⟩

/-- A check that fails, or goes on. -/
theorem Shows.unless {condition : Prop} [Decidable condition] {failure : ε}
    {next : Unit → Action ω σ ε α} (hnext : ∀ u, Shows seen yields (next u)) :
    Shows seen yields (if condition then raise failure >>= next else next ()) := by
  split
  · exact (shows_raise failure).seq hnext
  · exact hnext ()

end Action

open SubgraphLauncher.Action

namespace RunnerAction

variable {α : Type} {seen : Event τ → Prop}

theorem shows_consult {yields : α → Prop} {seenByPartner : PartnerEvent τ → Prop}
    {action : PartnerAction τ σ α} (haction : Shows seenByPartner yields action)
    (hseen : ∀ event, seenByPartner event → seen (.partner event)) :
    Shows seen yields (consult action) := by
  intro world
  obtain ⟨hevents, hresult⟩ := haction world.scene
  refine ⟨fun event hmem => ?_, hresult⟩
  obtain ⟨partner, hpartner, rfl⟩ := List.mem_map.mp hmem
  exact hseen partner (hevents partner hpartner)

/-- Where every event of a partner may be seen, any partner may act. -/
theorem shows_consult_of_partner (hseen : ∀ event, seen (.partner event))
    (action : PartnerAction τ σ α) : Shows seen (fun _ => True) (consult action) := by
  have haction : Shows (fun _ => True) (fun _ => True) action :=
    fun _ => ⟨fun _ _ => trivial, fun _ _ => trivial⟩
  exact shows_consult haction fun event _ => hseen event

end RunnerAction

end SubgraphLauncher
