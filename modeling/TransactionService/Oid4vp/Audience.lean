import TransactionService.Oid4vp.Handlers

namespace TransactionService.Audience

/-! # Audience binding of OID4VP responses -/

/-! ## The check -/

def CarriesProof (presentation proof : Json) : Prop :=
  presentation.field "proof" = some proof ∨
    ∃ proofs, presentation.field "proof" = some (.arr proofs) ∧ proof ∈ proofs

def ProofNames (proof : Json) (clientId : String) : Prop :=
  proof.field "domain" = some (.str clientId) ∨
    ∃ domains, proof.field "domain" = some (.arr domains) ∧ .str clientId ∈ domains

def BindsDomain (presentation : Json) (clientId : String) : Prop :=
  ∃ proof, CarriesProof presentation proof ∧ ProofNames proof clientId

theorem ProofNames.isObjectLike {proof : Json} {clientId : String}
    (names : ProofNames proof clientId) : proof.isObjectLike = true := by
  cases proof with
  | obj members => rfl
  | _ => simp [ProofNames, Json.field] at names

theorem mem_proofsOf {presentation proof : Json} {clientId : String}
    (names : ProofNames proof clientId) :
    proof ∈ proofsOf presentation ↔ CarriesProof presentation proof := by
  have isObject := names.isObjectLike
  unfold proofsOf CarriesProof
  split
  · rename_i proofs found
    rw [List.mem_filter, found]
    constructor
    · exact fun member => .inr ⟨proofs, rfl, member.1⟩
    · rintro (same | ⟨others, same, member⟩)
      · cases same
        simp [ProofNames, Json.field] at names
      · cases same
        exact ⟨member, isObject⟩
  · rename_i single notArray found
    rw [found]
    constructor
    · intro member
      split at member
      · exact .inl (by rw [List.mem_singleton.mp member])
      · cases member
    · rintro (same | ⟨proofs, same, -⟩)
      · cases same
        simp [isObject]
      · exact absurd (Option.some.inj same) (notArray proofs)
  · rename_i missing
    simp [missing]

theorem bindsAudience_iff {presentation : Json} {clientId : String} :
    bindsAudience presentation clientId = true ↔ BindsDomain presentation clientId := by
  unfold bindsAudience BindsDomain
  rw [List.any_eq_true]
  constructor
  · intro bound
    rcases bound with ⟨proof, member, names⟩
    have named : ProofNames proof clientId := by
      split at names
      · rename_i domains found
        exact .inr ⟨domains, found, Json.includesText_iff.mp names⟩
      · rename_i domain notArray found
        exact .inl (found.trans (congrArg some (Json.isText_iff.mp names)))
      · cases names
    exact ⟨proof, (mem_proofsOf named).mp member, named⟩
  · intro bound
    rcases bound with ⟨proof, carries, named⟩
    refine ⟨proof, (mem_proofsOf named).mpr carries, ?_⟩
    rcases named with single | ⟨domains, several, member⟩
    · simp [single]
    · simpa [several] using member

private theorem bindsDomain_congr {left right : Json} {clientId : String}
    (same : left.field "proof" = right.field "proof") :
    BindsDomain left clientId ↔ BindsDomain right clientId := by
  simp only [BindsDomain, CarriesProof, same]

/-! ## The presentation that is verified -/

section

variable (runtime : Runtime) (config : Config) (answers : Answers)

/-- Whatever reaches the verifier is bound to the client, and a response that is
accepted has reached it. -/
structure AudienceBound (body : Option Json) (exchange : ExchangeDetailVerify) : Prop where
  bound : ∀ call, .verifyPresentation call ∈
      (handleOid4vpResponse runtime config answers body exchange).calls →
    BindsDomain call.presentation (clientIdForExchange exchange)
  accepted : ∀ response,
    (handleOid4vpResponse runtime config answers body exchange).result = .ok response →
    response.status = 200 →
    ∃ call, .verifyPresentation call ∈
        (handleOid4vpResponse runtime config answers body exchange).calls ∧
      BindsDomain call.presentation (clientIdForExchange exchange)

/-- A presentation nested inside the one that was checked is bound as well, if
it is not rejected before the verifier is asked. -/
def NestedBound (body : Option Json) (exchange : ExchangeDetailVerify) : Prop :=
  ∀ presentation working nested prepared,
    acceptDirectPost runtime body exchange = .ok (presentation, working) →
    presentation.field "verifiablePresentation" = some nested → nested ≠ .null →
    preparePresentationForVerify runtime config presentation working = .ok prepared →
    BindsDomain nested (clientIdForExchange exchange)

variable {runtime config answers} {body : Option Json}
  {exchange working : ExchangeDetailVerify} {presentation : Json}

private theorem clientId_of_accepted
    (accepted : acceptDirectPost runtime body exchange = .ok (presentation, working)) :
    clientIdForExchange working = clientIdForExchange exchange := by
  rcases acceptDirectPost_ok runtime accepted with ⟨_, _, -, -, consumed, -, -⟩
  rcases consumeOid4vpResponse_ok consumed with ⟨_, -, -, -, rfl⟩
  rfl

theorem prepared_binds_iff {prepared : PreparedPresentation} {clientId : String}
    (ready : preparePresentationForVerify runtime config presentation working =
      .ok prepared) :
    BindsDomain prepared.presentation clientId ↔
      BindsDomain (presentationOf presentation) clientId := by
  rw [preparePresentationForVerify_ok runtime config ready]
  exact bindsDomain_congr (preparePresentation_field runtime (by decide) presentation)

theorem handleOid4vpResponse_calls
    (accepted : acceptDirectPost runtime body exchange = .ok (presentation, working)) :
    (handleOid4vpResponse runtime config answers body exchange).calls =
      (participateInVerifyExchange runtime config answers presentation working).calls := by
  simp only [handleOid4vpResponse, accepted, Action.recover_calls]
  cases answer : (participateInVerifyExchange runtime config answers presentation
      working).result with
  | error thrown => rw [Action.bind_error answer]
  | ok result => rw [Action.bind_ok answer]; simp

private theorem handleOid4vpResponse_accepted {response : Response}
    (succeeds : (handleOid4vpResponse runtime config answers body exchange).result =
      .ok response) (success : response.status = 200) :
    ∃ presentation working prepared,
      acceptDirectPost runtime body exchange = .ok (presentation, working) ∧
      preparePresentationForVerify runtime config presentation working = .ok prepared := by
  rcases handleOid4vpResponse_succeeds runtime config answers succeeds success with
    ⟨presentation, working, value, accepted, participated⟩
  rcases participateInVerifyExchange_ready runtime config answers participated with
    ⟨prepared, ready⟩
  exact ⟨presentation, working, prepared, accepted, ready⟩

variable (runtime config answers)

/-- The audience check protects the verifier exactly when it was made on what is
verified in the end. -/
theorem audienceBound_iff (body : Option Json) (exchange : ExchangeDetailVerify) :
    AudienceBound runtime config answers body exchange ↔
      NestedBound runtime config body exchange := by
  constructor
  · intro secured presentation working nested prepared accepted found present ready
    have asked : .verifyPresentation (verifyCallFor runtime config working
        prepared.presentation) ∈
        (handleOid4vpResponse runtime config answers body exchange).calls := by
      rw [handleOid4vpResponse_calls accepted]
      exact (mem_calls_participateInVerifyExchange runtime config answers).mpr
        ⟨prepared, ready, rfl⟩
    have binds := (prepared_binds_iff ready).mp (secured.bound _ asked)
    rwa [presentationOf, found, Json.orElse_some present] at binds
  · intro nestedBound
    have binds : ∀ presentation working prepared,
        acceptDirectPost runtime body exchange = .ok (presentation, working) →
        preparePresentationForVerify runtime config presentation working = .ok prepared →
        BindsDomain prepared.presentation (clientIdForExchange exchange) := by
      intro presentation working prepared accepted ready
      rw [prepared_binds_iff ready]
      rcases acceptDirectPost_ok runtime accepted with ⟨_, _, -, -, -, -, checked⟩
      have outer := bindsAudience_iff.mp checked
      rw [clientId_of_accepted accepted] at outer
      cases found : presentation.field "verifiablePresentation" with
      | none => rwa [presentationOf, found]
      | some nested =>
          by_cases null : nested = .null
          · rwa [presentationOf, found, null]
          · rw [presentationOf, found, Json.orElse_some null]
            exact nestedBound presentation working nested prepared accepted found null ready
    constructor
    · intro call asked
      cases accepted : acceptDirectPost runtime body exchange with
      | error response => simp [handleOid4vpResponse, accepted] at asked
      | ok checked =>
          rw [handleOid4vpResponse_calls accepted] at asked
          rcases (mem_calls_participateInVerifyExchange runtime config answers).mp asked with
            ⟨prepared, ready, rfl⟩
          exact binds _ _ prepared accepted ready
    · intro response succeeds success
      rcases handleOid4vpResponse_accepted succeeds success with
        ⟨presentation, working, prepared, accepted, ready⟩
      refine ⟨verifyCallFor runtime config working prepared.presentation, ?_,
        binds presentation working prepared accepted ready⟩
      rw [handleOid4vpResponse_calls accepted]
      exact (mem_calls_participateInVerifyExchange runtime config answers).mpr
        ⟨prepared, ready, rfl⟩

end

/-! ## A checked wrapper around another presentation -/

def requestedExchange : ExchangeDetailVerify where
  tenantName := "default"
  exchangeId := "exchange-1"
  expires := 600000
  state := .pending
  vars := {
    exchangeHost := "http://localhost:4004"
    challenge := "challenge-1"
    vprContext := []
    vprCredentialType := ["VerifiableCredential"]
    trustedIssuers := []
    vprClaims := []
    oid4vp := some { state := some "state-1", responseReceived := some false } }

/-- The domain stands on an unsigned object around the presentation. -/
def wrappedPresentation : Json :=
  .obj [
    ("proof", .obj [("domain", .str (clientIdForExchange requestedExchange))]),
    ("verifiablePresentation", samplePresentation)]

def wrappedResponse : Json :=
  .obj [
    ("vp_token", .obj [("credential", .arr [wrappedPresentation])]),
    ("state", .str "state-1")]

def refusingAnswers : Answers where
  clock _ := 0
  randomUUID _ := "attempt-1"
  randomBytes := "random"
  verifyPresentation _ := .error "not verified"
  verifyCredential _ _ := .error "not verified"
  callService _ _ := none
  accepted _ := true

def answeredExchange : ExchangeDetailVerify :=
  withOid4vp requestedExchange { state := some "state-1", responseReceived := some true }

private theorem wrappedResponse_accepted :
    acceptDirectPost Runtime.plain (some wrappedResponse) requestedExchange =
      .ok (wrappedPresentation, answeredExchange) := by
  have schema : parseDirectPost (coerceBody Runtime.plain wrappedResponse) =
      some {
        vpToken := [("credential", .arr [wrappedPresentation])]
        state := some "state-1" } := rfl
  have consumed : consumeOid4vpResponse requestedExchange (some "state-1") =
      .ok answeredExchange := rfl
  have first : firstPresentation [("credential", .arr [wrappedPresentation])] =
      some wrappedPresentation := by
    rw [firstPresentation, objectValues_singleton]
    rfl
  have binds : bindsAudience wrappedPresentation (clientIdForExchange answeredExchange) =
      true :=
    bindsAudience_iff.mpr ⟨_, .inl rfl, .inl rfl⟩
  simp only [acceptDirectPost, Option.bind_some, schema, consumed, first, binds, if_true]

theorem wrapped_presentation_unbound :
    ¬ AudienceBound Runtime.plain {} refusingAnswers (some wrappedResponse)
      requestedExchange := by
  intro secured
  have ready : preparePresentationForVerify Runtime.plain {} wrappedPresentation
      answeredExchange =
        .ok { presentation := samplePresentation, compatLog := [], debug := false } := rfl
  have asked : .verifyPresentation
      (verifyCallFor Runtime.plain {} answeredExchange samplePresentation) ∈
      (handleOid4vpResponse Runtime.plain {} refusingAnswers (some wrappedResponse)
        requestedExchange).calls := by
    rw [handleOid4vpResponse_calls wrappedResponse_accepted]
    exact (mem_calls_participateInVerifyExchange _ _ _).mpr ⟨_, ready, rfl⟩
  rcases secured.bound _ asked with ⟨proof, carries | ⟨proofs, carries, -⟩, names⟩
  · cases carries
    rcases names with names | ⟨domains, names, -⟩ <;> cases names
  · cases carries

end TransactionService.Audience
