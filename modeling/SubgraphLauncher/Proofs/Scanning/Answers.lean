import SubgraphLauncher.Proofs.Scanning.Frame
import SubgraphLauncher.Proofs.Settings.Members
import SubgraphLauncher.Proofs.Trace

/-!
# What counts as an answer of a GraphQL server

A probe confirms an endpoint if the service there answers in time, without an error, with an object
whose data is an object that names its type. Of several members of one name the last one counts.
Everything else is no answer to the probe, and one probe is one request.
-/

namespace SubgraphLauncher

open SubgraphLauncher.Action

variable {τ σ : Type}

/-- The body is an object, and its data is one that names its type. -/
def IsGraphQL (body : String) : Prop :=
  ∃ members data, Json.membersOf? body.toList = some members ∧
    Json.lastOf? "data" members = some (.object data) ∧
    ∃ name, Value.entryOf? "__typename" data = some name

/-- An answer to a probe that is given before the time to wait is over, and is no error. -/
structure Answer.Confirms [Moment τ] (answer : Answer τ) (limit : τ) : Prop where
  comes : answer.hangs = false
  inTime : ¬ limit ≤ answer.delay
  succeeds : answer.failure = none
  status : answer.status < 400 ∨ 600 ≤ answer.status
  body : IsGraphQL answer.body

/-- What answers at a URL now is a GraphQL server. -/
def Network.Confirms [Moment τ] (network : Network τ) (url : String) (limit : τ) : Prop :=
  ∃ answer, network.answer? url = some answer ∧ answer.Confirms limit

theorem answersProbe_iff (document : Value) :
    answersProbe document = true ↔ ∃ entries data, document = .object entries ∧
      Value.entryOf? "data" entries = some (.object data) ∧
      ∃ name, Value.entryOf? "__typename" data = some name := by
  have hmember (value : Value) : (value.member? "__typename").isSome ↔
      ∃ data, value = .object data ∧ ∃ name, Value.entryOf? "__typename" data = some name := by
    cases value <;> simp [Value.member?, Option.isSome_iff_exists]
  cases document with
  | object entries =>
      have hprobe : answersProbe (.object entries) = true ↔
          ∃ value, Value.entryOf? "data" entries = some value ∧
            (value.member? "__typename").isSome := by
        unfold answersProbe
        simp only [Value.member?]
        cases Value.entryOf? "data" entries <;> simp
      rw [hprobe]
      simp only [hmember]
      constructor
      · rintro ⟨value, hvalue, data, rfl, hname⟩
        exact ⟨entries, data, rfl, hvalue, hname⟩
      · rintro ⟨_, data, ⟨⟩, hvalue, hname⟩
        exact ⟨_, hvalue, data, rfl, hname⟩
  | _ => simp [answersProbe, Value.member?]

theorem isGraphQL_iff (body : String) :
    IsGraphQL body ↔ ∃ document, Json.parse body.toList = .ok document ∧
      answersProbe document = true := by
  simp only [answersProbe_iff, IsGraphQL]
  constructor
  · rintro ⟨members, data, hmembers, hdata, hname⟩
    refine ⟨.object (Json.collect members), ?_, _, data, rfl, ?_, hname⟩
    · exact Json.parse_eq_object_iff.mpr ⟨members, hmembers, rfl⟩
    · rw [Json.entryOf?_collect, hdata]
  · rintro ⟨_, hparse, entries, data, rfl, hdata, hname⟩
    obtain ⟨members, hmembers, rfl⟩ := Json.parse_eq_object_iff.mp hparse
    rw [Json.entryOf?_collect] at hdata
    exact ⟨members, data, hmembers, hdata, hname⟩

instance (body : String) : Decidable (IsGraphQL body) :=
  decidable_of_iff ((Json.parse body.toList).toOption.any answersProbe = true) <| by
    rw [isGraphQL_iff]
    cases Json.parse body.toList <;> simp [Except.toOption]

section Probe

variable [Moment τ]

theorem Response.statusFault?_eq_none_iff (response : Response) :
    response.statusFault? = none ↔ response.status < 400 ∨ 600 ≤ response.status := by
  unfold Response.statusFault?
  dsimp only
  split
  · simp only [reduceCtorEq, false_iff]
    omega
  · split
    · simp only [reduceCtorEq, false_iff]
      omega
    · simp only [true_iff]
      omega

omit [Moment τ] in
theorem readProbe_result_iff (response : Response) (scene : Scene τ σ) (document : Value) :
    (readProbe response scene).result = .ok document ↔
      (response.status < 400 ∨ 600 ≤ response.status) ∧
        Json.parse response.body.toList = .ok document := by
  rw [← Response.statusFault?_eq_none_iff]
  unfold readProbe Response.requireSuccess
  rw [bind_apply]
  cases response.statusFault? with
  | some text => simp [raise_apply]
  | none =>
      unfold Response.document
      simp only [pure_apply, true_and]
      cases Json.parse response.body.toList <;> simp [raise_apply, pure_apply]

instance (answer : Answer τ) (limit : τ) : Decidable (answer.Confirms limit) :=
  decidable_of_iff (answer.hangs = false ∧ ¬ limit ≤ answer.delay ∧ answer.failure.isNone = true ∧
      (answer.status < 400 ∨ 600 ≤ answer.status) ∧ IsGraphQL answer.body)
    ⟨fun ⟨hcomes, htime, hsucceeds, hstatus, hbody⟩ =>
      ⟨hcomes, htime, Option.isNone_iff_eq_none.mp hsucceeds, hstatus, hbody⟩,
    fun hconfirms => ⟨hconfirms.comes, hconfirms.inTime,
      Option.isNone_iff_eq_none.mpr hconfirms.succeeds, hconfirms.status, hconfirms.body⟩⟩

instance (network : Network τ) (url : String) (limit : τ) :
    Decidable (network.Confirms url limit) :=
  decidable_of_iff
    (((network.answer? url).any fun answer => decide (answer.Confirms limit)) = true) <| by
    unfold Network.Confirms
    cases network.answer? url <;> simp

/-- A request has a response if it is answered in time, and not by a failure. -/
theorem Network.reply_eq_ok_iff (network : Network τ) (url : String) (limit : τ)
    (response : Response) :
    network.reply url (some limit) = .ok response ↔
      ∃ answer, network.answer? url = some answer ∧ answer.hangs = false ∧
        ¬ limit ≤ answer.delay ∧ answer.failure = none ∧
        response = ⟨url, answer.status, answer.reason, answer.body⟩ := by
  unfold Network.reply
  cases network.answer? url with
  | none => simp
  | some answer =>
      have hlate : answer.isLate (some limit) = false ↔
          answer.hangs = false ∧ ¬ limit ≤ answer.delay := by
        simp [Answer.isLate]
      have hsplit : (∃ given, some answer = some given ∧ given.hangs = false ∧
          ¬ limit ≤ given.delay ∧ given.failure = none ∧
          response = ⟨url, given.status, given.reason, given.body⟩) ↔
            answer.isLate (some limit) = false ∧ answer.failure = none ∧
              response = ⟨url, answer.status, answer.reason, answer.body⟩ := by
        simp only [Option.some.injEq, exists_eq_left', hlate, and_assoc]
      rw [hsplit]
      dsimp only
      cases answer.isLate (some limit) with
      | true => simp
      | false =>
          cases answer.failure with
          | some failure => simp
          | none => simpa using eq_comm

/-- A probe confirms an endpoint just where the service answers as a GraphQL server. -/
theorem servesGraphQL_result_iff (endpoint : Endpoint) (limit : τ) (scene : Scene τ σ) :
    (servesGraphQL endpoint (some limit) scene).result = .ok true ↔
      scene.network.Confirms endpoint.url limit := by
  have hjudge : (servesGraphQL endpoint (some limit) scene).result = .ok true ↔
      ∃ document, ((post endpoint.url probeBody (some limit) >>= readProbe) scene).result =
        .ok document ∧ answersProbe document = true := by
    rw [servesGraphQL_eq, bind_apply, attempt_apply]
    dsimp only
    cases ((post endpoint.url probeBody (some limit) >>= readProbe) scene).result with
    | ok document => simp [judgeProbe, pure_apply]
    | error failure =>
        unfold judgeProbe
        dsimp only
        split
        · simp [PartnerAction.note, bind_apply, emit_apply, pure_apply]
        · simp [raise_apply]
  rw [hjudge]
  constructor
  · rintro ⟨document, hread, hanswers⟩
    obtain ⟨response, hpost, hdocument⟩ := result_bind hread
    rw [post_apply] at hpost
    obtain ⟨answer, hanswer, hcomes, htime, hsucceeds, rfl⟩ :=
      (Network.reply_eq_ok_iff _ _ _ _).mp hpost
    obtain ⟨hstatus, hparse⟩ := (readProbe_result_iff _ _ _).mp hdocument
    exact ⟨answer, hanswer, hcomes, htime, hsucceeds, hstatus,
      (isGraphQL_iff _).mpr ⟨document, hparse, hanswers⟩⟩
  · rintro ⟨answer, hanswer, hcomes, htime, hsucceeds, hstatus, hbody⟩
    obtain ⟨document, hparse, hanswers⟩ := (isGraphQL_iff _).mp hbody
    refine ⟨document, ?_, hanswers⟩
    have hreply := (scene.network.reply_eq_ok_iff endpoint.url limit _).mpr
      ⟨answer, hanswer, hcomes, htime, hsucceeds, rfl⟩
    rw [bind_apply, post_apply, hreply]
    exact (readProbe_result_iff _ _ _).mpr ⟨hstatus, hparse⟩

end Probe

end SubgraphLauncher
