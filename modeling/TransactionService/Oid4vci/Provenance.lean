import TransactionService.World.RecordHistory

namespace TransactionService.Provenance

open History SingleUse RecordHistory

/-! # Where an issued credential comes from

Offers, tokens and nonces of one claim exchange follow each other in any order.
The stored code, token and nonce are those of the latest responses, so that an
accepted credential request leads back to an offer. -/

section

variable {runtime : Runtime} {config : Config} {answers : Answers}
  {request : StoreRequest} {snapshot next : Exchange} {detail : ExchangeDetailClaim}

/-! ## What one request answers and writes -/

theorem handleTokenRequest_response {body response : Json}
    {updated : ExchangeDetailClaim}
    (handled : handleTokenRequest answers body detail = .ok (updated, response)) :
    (response.field "access_token").bind Json.asString? = some answers.randomBytes := by
  unfold handleTokenRequest at handled
  split at handled
  · cases handled
  · split at handled
    · cases handled
    · split at handled
      · cases handled
      · split at handled
        · cases handled
        · cases handled
          rfl

structure Redeemed (request : StoreRequest) (detail : ExchangeDetailClaim)
    (presented : String) (redeemed : ExchangeDetailClaim) (next : Exchange) : Prop where
  accepted : redeemPreAuthorizedCode (request.answers.clock 0) detail presented =
    .ok redeemed
  stored : next = .claim (setAccessToken request.answers (request.answers.clock 1)
    redeemed accessTokenTtlSeconds)

theorem returnedToken_spec {token : String}
    (returned : returnedToken runtime config request snapshot = some token) :
    token = request.answers.randomBytes ∧
      ∃ detail presented redeemed next, snapshot = .claim detail ∧
        redeems runtime config presented request snapshot = true ∧
        written runtime config request snapshot = some next ∧
        Redeemed request detail presented redeemed next := by
  rcases request with ⟨workflowId, endpoint, answers⟩
  cases endpoint with
  | token body =>
      rcases Option.bind_eq_some_iff.mp returned with ⟨response, isAnswered, isToken⟩
      have served := answeredJson_eq_some.mp isAnswered
      rcases onClaim_answers served with ⟨detail, rfl, routed, sameSave⟩
      rcases tokenRoute_succeeds routed rfl with ⟨updated, value, handled, isValue, saved⟩
      cases isValue
      have sameToken := handleTokenRequest_response handled
      rw [isToken] at sameToken
      rcases handleTokenRequest_ok answers handled with
        ⟨presented, redeemed, isPresented, accepted, rfl⟩
      refine ⟨Option.some.inj sameToken, detail, presented, redeemed, _, rfl, ?_,
        sameSave.trans saved, accepted, rfl⟩
      have isCode : presentedCode body = some presented := isPresented
      simp [redeems, isCode, served, json, SingleUse.succeeds]
  | _ => cases returned

theorem redeems_spec {code : String}
    (wins : redeems runtime config code request snapshot = true) :
    returnedToken runtime config request snapshot = some request.answers.randomBytes ∧
      ∃ detail redeemed next, snapshot = .claim detail ∧
        written runtime config request snapshot = some next ∧
        Redeemed request detail code redeemed next := by
  rcases request with ⟨workflowId, endpoint, answers⟩
  cases endpoint with
  | token body =>
      simp only [redeems, Bool.and_eq_true, decide_eq_true_eq] at wins
      rcases wins with ⟨presents, success⟩
      cases isServed : (served runtime config ⟨workflowId, .token body, answers⟩
          snapshot).result with
      | error thrown => simp [isServed, SingleUse.succeeds] at success
      | ok response =>
          have ok : response.status = 200 := by simpa [isServed, SingleUse.succeeds] using success
          rcases onClaim_answers isServed with ⟨detail, rfl, routed, sameSave⟩
          rcases tokenRoute_succeeds routed ok with
            ⟨updated, value, handled, isResponse, saved⟩
          rcases handleTokenRequest_ok answers handled with
            ⟨presented, redeemed, isPresented, accepted, rfl⟩
          have isCode : presented = code :=
            Option.some.inj (isPresented.symm.trans presents)
          subst isCode
          refine ⟨?_, detail, redeemed, _, rfl, sameSave.trans saved, accepted, rfl⟩
          simp only [returnedToken, isServed, isResponse]
          exact handleTokenRequest_response handled
  | _ => cases wins

theorem returnedNonce_spec {nonce : String}
    (returned : returnedNonce runtime config request snapshot = some nonce) :
    nonce = request.answers.randomBytes ∧
      ∃ detail, snapshot = .claim detail ∧
        written runtime config request snapshot =
          some (.claim (handleNonceRequest request.answers detail)) := by
  rcases request with ⟨workflowId, endpoint, answers⟩
  cases endpoint with
  | nonce =>
      rcases Option.bind_eq_some_iff.mp returned with ⟨response, isAnswered, isNonce⟩
      rcases onClaim_answers (answeredJson_eq_some.mp isAnswered) with
        ⟨detail, rfl, routed, sameSave⟩
      rcases Action.result_bind routed with ⟨_, saves, responds⟩
      cases responds
      refine ⟨(Option.some.inj isNonce).symm, detail, rfl, sameSave.trans ?_⟩
      unfold nonceRoute
      rw [Action.bind_ok saves]
      simp [saveExchange_ok saves]
  | _ => cases returned

theorem redeems_of_silent (silent : returnedToken runtime config request snapshot = none)
    (code : String) : redeems runtime config code request snapshot = false := by
  cases wins : redeems runtime config code request snapshot with
  | false => rfl
  | true =>
      have returned := (redeems_spec wins).1
      rw [silent] at returned
      cases returned

structure Quiet (runtime : Runtime) (config : Config) (request : StoreRequest)
    (snapshot : Exchange) : Prop where
  token : returnedToken runtime config request snapshot = none
  nonce : returnedNonce runtime config request snapshot = none

theorem Quiet.codes (quiet : Quiet runtime config request snapshot) (code : String) :
    redeems runtime config code request snapshot = false :=
  redeems_of_silent quiet.token code

private theorem quiet_of_unwritten (unwritten : written runtime config request snapshot = none) :
    Quiet runtime config request snapshot := by
  constructor
  · apply Option.eq_none_iff_forall_ne_some.mpr
    intro token returned
    rcases returnedToken_spec returned with ⟨-, _, _, _, _, -, -, saved, -⟩
    rw [unwritten] at saved
    cases saved
  · apply Option.eq_none_iff_forall_ne_some.mpr
    intro nonce returned
    rcases returnedNonce_spec returned with ⟨-, _, -, saved⟩
    rw [unwritten] at saved
    cases saved

theorem token_written {workflowId : String} {body : Json}
    (saved : written runtime config ⟨workflowId, .token body, answers⟩ (.claim detail) =
      some next) :
    returnedToken runtime config ⟨workflowId, .token body, answers⟩ (.claim detail) =
      some answers.randomBytes := by
  rcases loaded_writes saved with ⟨writes, sameResult⟩
  have routedWrites : (tokenRoute answers body detail).saved = some next := writes
  have routed : (served runtime config ⟨workflowId, .token body, answers⟩
      (.claim detail)).result = (tokenRoute answers body detail).result := sameResult
  unfold tokenRoute at routedWrites routed
  split at routedWrites
  · cases routedWrites
  · rename_i updated response handled
    rcases Action.saved_bind routedWrites with stores | ⟨_, -, nothing⟩
    · rw [handled] at routed
      have isServed : (served runtime config ⟨workflowId, .token body, answers⟩
          (.claim detail)).result = .ok (json response) :=
        routed.trans (saveExchange_bind_result stores _)
      simp only [returnedToken, isServed]
      exact handleTokenRequest_response handled
    · cases nothing

theorem nonce_written {workflowId : String}
    (saved : written runtime config ⟨workflowId, .nonce, answers⟩ (.claim detail) =
      some next) :
    next = .claim (handleNonceRequest answers detail) ∧
      returnedNonce runtime config ⟨workflowId, .nonce, answers⟩ (.claim detail) =
        some answers.randomBytes := by
  rcases loaded_writes saved with ⟨writes, sameResult⟩
  have routedWrites : (nonceRoute answers detail).saved = some next := writes
  have routed : (served runtime config ⟨workflowId, .nonce, answers⟩
      (.claim detail)).result = (nonceRoute answers detail).result := sameResult
  unfold nonceRoute at routedWrites routed
  rcases Action.saved_bind routedWrites with stores | ⟨_, -, nothing⟩
  · refine ⟨saveExchange_saved stores, ?_⟩
    have isServed : (served runtime config ⟨workflowId, .nonce, answers⟩
        (.claim detail)).result =
          .ok (json (.obj [("c_nonce", .str answers.randomBytes)])) :=
      routed.trans (saveExchange_bind_result stores _)
    simp only [returnedNonce, isServed]
    rfl
  · cases nothing

/-! ### Offers -/

private theorem buildCredentialOffer_ok {code : String} (nonempty : code ≠ "")
    (template : isCredentialTemplate runtime detail.vars.vc = true)
    (stored : (oid4vciState detail).preAuthorizedCode = some code) :
    ∃ offer, buildCredentialOffer runtime detail = .ok offer ∧ codeOf offer = some code := by
  have isGiven : Text.given (oid4vciState detail).preAuthorizedCode = some code := by
    rw [stored]
    simp [Text.given, nonempty]
  rcases deriveCredentialConfigurationId_ok template with ⟨configId, derived⟩
  unfold buildCredentialOffer
  simp only [isGiven, derived]
  exact ⟨_, rfl, rfl⟩

def withDrawnCode (answers : Answers) (detail : ExchangeDetailClaim) : ExchangeDetailClaim :=
  withOid4vci detail { oid4vciState detail with
    preAuthorizedCode := some answers.randomBytes
    preAuthorizedCodeExpiresAt :=
      some (futureIso (answers.clock 2) (codeTtlSec answers detail))
    codeUsed := some false }

theorem credentialOfferRoute_current {code : String}
    (current : currentCode (answers.clock 1) detail = some code) :
    (credentialOfferRoute runtime answers detail).saved = none := by
  have same : ensurePreAuthorizedCode answers detail (codeTtlSec answers detail) =
      (detail, false) := by
    simp [ensurePreAuthorizedCode, current]
  unfold credentialOfferRoute
  rw [same]
  exact Action.saved_bind_eq_none rfl fun _ => rfl

/-- The offer is built after the code that it carries has been saved. -/
theorem credentialOfferRoute_drawn (none : currentCode (answers.clock 1) detail = none) :
    credentialOfferRoute runtime answers detail = (do
      saveExchange answers (.claim (withDrawnCode answers detail))
      let offer ← Action.ofExcept
        (buildCredentialOffer runtime (withDrawnCode answers detail))
      return json offer) := by
  have drawn : ensurePreAuthorizedCode answers detail (codeTtlSec answers detail) =
      (withDrawnCode answers detail, true) := by
    simp [ensurePreAuthorizedCode, none, withDrawnCode]
  unfold credentialOfferRoute
  rw [drawn]
  dsimp only
  rw [if_pos rfl]

theorem offer_written {workflowId : String}
    (saved : written runtime config ⟨workflowId, .credentialOffer, answers⟩
      (.claim detail) = some next) :
    currentCode (answers.clock 1) detail = none ∧ workflowId = "claim" ∧
      next = .claim (withDrawnCode answers detail) ∧
      (answers.randomBytes ≠ "" → isCredentialTemplate runtime detail.vars.vc = true →
        offeredCode runtime config ⟨workflowId, .credentialOffer, answers⟩
          (.claim detail) = some answers.randomBytes) := by
  have isClaim : workflowId = "claim" := by
    rcases Action.saved_bind_of_none rfl saved with ⟨exchange, loads, -⟩
    have loaded : getExchangeData (some (.claim detail)) workflowId = .ok exchange := loads
    have found := getExchangeData_ok loaded
    cases found
    exact (getExchangeData_workflowId loaded).symm
  rcases loaded_writes saved with ⟨writes, sameResult⟩
  have routedWrites : (credentialOfferRoute runtime answers detail).saved = some next := writes
  have routed : (served runtime config ⟨workflowId, .credentialOffer, answers⟩
      (.claim detail)).result = (credentialOfferRoute runtime answers detail).result :=
    sameResult
  cases current : currentCode (answers.clock 1) detail with
  | some code =>
      rw [credentialOfferRoute_current current] at routedWrites
      cases routedWrites
  | none =>
      rw [credentialOfferRoute_drawn current] at routedWrites routed
      rcases Action.saved_bind routedWrites with stores | ⟨_, -, later⟩
      · refine ⟨rfl, isClaim, saveExchange_saved stores, ?_⟩
        intro nonempty template
        have stored : (oid4vciState (withDrawnCode answers detail)).preAuthorizedCode =
            some answers.randomBytes := rfl
        have sameTemplate :
            isCredentialTemplate runtime (withDrawnCode answers detail).vars.vc = true :=
          template
        rcases buildCredentialOffer_ok nonempty sameTemplate stored with ⟨offer, built, isCode⟩
        rw [saveExchange_bind_result stores, built] at routed
        have isServed : (served runtime config ⟨workflowId, .credentialOffer, answers⟩
            (.claim detail)).result = .ok (json offer) := routed
        simp only [offeredCode, isServed]
        exact isCode
      · rcases Action.saved_bind later with nothing | ⟨_, -, nothing⟩ <;> cases nothing

/-! ## One step of the record -/

/-- What a request does to the code, the token and the nonce of a claim exchange. -/
inductive ClaimStep (runtime : Runtime) (config : Config) (request : StoreRequest)
    (detail : ExchangeDetailClaim) : ExchangeDetailClaim → Prop
  | other {after : ExchangeDetailClaim}
      (quiet : Quiet runtime config request (.claim detail))
      (sameTemplate : after.vars.vc = detail.vars.vc)
      (sameState : after.vars.oid4vci = detail.vars.oid4vci)
      (complete : detail.state = .complete → after.state = .complete) :
      ClaimStep runtime config request detail after
  | drawn {workflowId : String} {answers : Answers}
      (offers : request = ⟨workflowId, .credentialOffer, answers⟩)
      (none : currentCode (answers.clock 1) detail = none) (known : workflowId = "claim")
      (sent : answers.randomBytes ≠ "" → isCredentialTemplate runtime detail.vars.vc = true →
        offeredCode runtime config request (.claim detail) = some answers.randomBytes) :
      ClaimStep runtime config request detail (withDrawnCode answers detail)
  | redeemed {presented : String} {redeemed : ExchangeDetailClaim}
      (accepted : redeemPreAuthorizedCode (request.answers.clock 0) detail presented =
        .ok redeemed)
      (returned : returnedToken runtime config request (.claim detail) =
        some request.answers.randomBytes)
      (silent : returnedNonce runtime config request (.claim detail) = none) :
      ClaimStep runtime config request detail (setAccessToken request.answers
        (request.answers.clock 1) redeemed accessTokenTtlSeconds)
  | minted
      (returned : returnedNonce runtime config request (.claim detail) =
        some request.answers.randomBytes)
      (silent : returnedToken runtime config request (.claim detail) = none) :
      ClaimStep runtime config request detail (handleNonceRequest request.answers detail)
  | issued (quiet : Quiet runtime config request (.claim detail))
      (signedCredential : Json) (compatLog : Option (List CheckResult)) :
      ClaimStep runtime config request detail (claimCompleted
        (withOid4vci detail { oid4vciState detail with nonceUsed := some true })
        signedCredential compatLog)

private theorem change_claimStep
    (change : Change runtime config request.answers request.endpoint (.claim detail) next)
    (quiet : Quiet runtime config request (.claim detail))
    (noOffer : request.endpoint ≠ .credentialOffer)
    (noToken : ∀ body, request.endpoint ≠ .token body)
    (noNonce : request.endpoint ≠ .nonce) :
    ∃ after, next = .claim after ∧ ClaimStep runtime config request detail after := by
  rcases request with ⟨workflowId, endpoint, answers⟩
  cases change with
  | activated pending =>
      exact ⟨_, rfl, .other quiet rfl rfl fun complete =>
        nomatch complete.symm.trans pending⟩
  | claimed signedCredential compatLog ongoing =>
      exact ⟨_, rfl, .other quiet rfl rfl fun _ => rfl⟩
  | swept planned => cases planned
  | offered => exact absurd rfl noOffer
  | redeemed handled => exact absurd rfl (noToken _)
  | minted => exact absurd rfl noNonce
  | issued signedCredential compatLog ongoing =>
      exact ⟨_, rfl, .issued quiet signedCredential compatLog⟩

private theorem written_claimStep
    (saved : written runtime config request (.claim detail) = some next) :
    ∃ after, next = .claim after ∧ ClaimStep runtime config request detail after := by
  have change := written_change saved
  rcases request with ⟨workflowId, endpoint, answers⟩
  cases endpoint with
  | token body =>
      have returned := token_written saved
      rcases returnedToken_spec returned with
        ⟨-, other, presented, redeemed, stored, same, -, isStored, accepted, rfl⟩
      cases same
      have isNext := Option.some.inj (saved.symm.trans isStored)
      exact ⟨_, isNext, .redeemed accepted returned rfl⟩
  | nonce =>
      rcases nonce_written saved with ⟨rfl, returned⟩
      exact ⟨_, rfl, .minted returned rfl⟩
  | credentialOffer =>
      rcases offer_written saved with ⟨none, known, rfl, sent⟩
      exact ⟨_, rfl, .drawn rfl none known sent⟩
  | _ =>
      exact change_claimStep change ⟨rfl, rfl⟩ (fun equal => (nomatch equal))
        (fun _ equal => (nomatch equal)) (fun equal => (nomatch equal))

variable (runtime config) in
theorem claim_step (request : StoreRequest) (detail : ExchangeDetailClaim) :
    ∃ after, applied runtime config (.request request) (some (.claim detail)) =
        some (.claim after) ∧
      ClaimStep runtime config request detail after := by
  cases saved : written runtime config request (.claim detail) with
  | none =>
      exact ⟨detail, applied_unwritten saved, .other (quiet_of_unwritten saved) rfl rfl id⟩
  | some next =>
      rcases written_claimStep saved with ⟨after, rfl, isStep⟩
      exact ⟨after, applied_written saved, isStep⟩

end

/-! ## What an accepted credential request presents -/

/-- The access token of an `Authorization` header. -/
def presentedToken (authorization : Option String) : Option String :=
  let auth := authorization.getD ""
  if Text.startsWith "Bearer " auth then some (Text.trim (Text.sliceFrom 7 auth))
  else none

def submittedChallenge (body : Option Json) : Option String :=
  (body.bind parseCredentialRequest).bind fun request =>
    match extractVpChallenge request.diVp with
    | .ok challenge => challenge
    | .error _ => none

structure Admitted (request : StoreRequest) (authorization : Option String)
    (body : Option Json) (detail : ExchangeDetailClaim) : Prop where
  token : ∃ token expiresAt, presentedToken authorization = some token ∧
    (oid4vciState detail).accessToken = some token ∧
    (oid4vciState detail).accessTokenExpiresAt = some expiresAt ∧
    request.answers.clock 0 < expiresAt
  nonce : ∃ challenge expiresAt, submittedChallenge body = some challenge ∧
    (oid4vciState detail).cNonce = some challenge ∧
    (oid4vciState detail).cNonceExpiresAt = some expiresAt ∧
    request.answers.clock 1 < expiresAt

section

variable {runtime : Runtime} {config : Config} {answers : Answers}
  {request : StoreRequest} {snapshot : Exchange} {detail : ExchangeDetailClaim}

private theorem handleKeyProof_nonce {credentialRequest : CredentialRequest} {workflow : Workflow}
    (carries : carriesCredential (handleKeyProof runtime config answers credentialRequest
      detail workflow).result = true) :
    ∃ challenge working,
      extractVpChallenge credentialRequest.diVp = .ok (some challenge) ∧
      validateAndConsumeNonce (answers.clock 1) detail challenge = .ok working := by
  unfold handleKeyProof at carries
  rcases carries_bind carries with ⟨expectedConfigId, -, afterConfig⟩
  dsimp only at afterConfig
  split at afterConfig
  · cases afterConfig
  · rcases carries_bind afterConfig with ⟨presented, extracted, afterChallenge⟩
    cases isGiven : Text.given presented with
    | none =>
        simp only [isGiven] at afterChallenge
        cases afterChallenge
    | some challenge =>
        have isPresented : presented = some challenge :=
          (Option.filter_eq_some_iff.mp isGiven).1
        subst isPresented
        simp only [isGiven] at afterChallenge
        cases consumed : validateAndConsumeNonce (answers.clock 1) detail challenge with
        | error failure =>
            simp only [consumed] at afterChallenge
            cases afterChallenge
        | ok working => exact ⟨challenge, working, extracted, consumed⟩

theorem handleCredentialRequest_admits {accessToken : Option String} {body : Json}
    {workflow : Workflow}
    (carries : carriesCredential (handleCredentialRequest runtime config answers accessToken
      body detail workflow).result = true) :
    ∃ token valid credentialRequest, accessToken = some token ∧
      validateAccessToken (answers.clock 0) detail token = .ok valid ∧
      parseCredentialRequest body = some credentialRequest ∧
      carriesCredential (handleKeyProof runtime config answers credentialRequest detail
        workflow).result = true := by
  unfold handleCredentialRequest at carries
  split at carries
  · cases carries
  · rename_i token isGiven
    split at carries
    · cases carries
    · rename_i valid accepted
      split at carries
      · cases carries
      · split at carries
        · cases carries
        · rename_i credentialRequest parsed
          exact ⟨token, valid, credentialRequest, (Option.filter_eq_some_iff.mp isGiven).1,
            accepted, parsed, carries⟩

private theorem credential_admitted {workflowId : String} {authorization : Option String}
    {body : Option Json}
    (wins : returnsCredential runtime config
      ⟨workflowId, .credential authorization body, answers⟩ (.claim detail) = true) :
    Admitted ⟨workflowId, .credential authorization body, answers⟩ authorization body
      detail := by
  rcases carries_bind wins with ⟨exchange, loads, issues⟩
  have found : some (Exchange.claim detail) = some exchange := getExchangeData_ok loads
  cases found
  have routed : carriesCredential (credentialRoute runtime config answers authorization body
      detail).result = true := issues
  unfold credentialRoute at routed
  cases body with
  | none => cases routed
  | some body =>
      rcases handleCredentialRequest_admits routed with
        ⟨token, valid, credentialRequest, isToken, accepted, parsed, carries⟩
      rcases handleKeyProof_nonce carries with ⟨challenge, working, extracted, consumed⟩
      rcases validateAccessToken_ok accepted with ⟨storedToken, expiresAt, isTime, inTime⟩
      rcases validateAndConsumeNonce_current consumed with
        ⟨storedNonce, nonceExpiresAt, isNonceTime, nonceInTime⟩
      refine ⟨⟨token, expiresAt, isToken, storedToken, isTime, inTime⟩,
        ⟨challenge, nonceExpiresAt, ?_, storedNonce, isNonceTime, nonceInTime⟩⟩
      simp [submittedChallenge, parsed, extracted]

end

/-! ## What the record owes to its past -/

def drawnCode (entry : RecordEntry) : Option String :=
  match entry.operation, entry.found with
  | .request ⟨workflowId, .credentialOffer, answers⟩, some (.claim detail) =>
      if workflowId = "claim" ∧ currentCode (answers.clock 1) detail = none then
        some answers.randomBytes
      else none
  | _, _ => none

def codeExpiresAt (entry : RecordEntry) : Timestamp :=
  match entry.operation, entry.found with
  | .request request, some (.claim detail) =>
      futureIso (request.answers.clock 2) (codeTtlSec request.answers detail)
  | _, _ => 0

def NoCodeRepeats (past : RecordPast) : Prop :=
  (past.filterMap drawnCode).Nodup

section

variable (runtime : Runtime) (config : Config)

/-- The code was drawn for and sent with an offer, and had not expired. -/
def FromOffer (earlier : RecordPast) (code : String) (now : Timestamp) : Prop :=
  ∃ offer ∈ earlier, drawnCode offer = some code ∧
    answered (offeredCode runtime config) offer = some code ∧
    now < codeExpiresAt offer

/-- The latest token response returned the token, less than 600 seconds ago, for a
code that is redeemed this once and came from an offer. -/
def FromRedemption (past older : RecordPast) (token : String) (now : Timestamp) : Prop :=
  ∃ entry earlier code,
    Latest (answered (returnedToken runtime config)) older entry earlier ∧
    answered (returnedToken runtime config) entry = some token ∧
    now < clockOf entry 1 + 600 * 1000 ∧
    happened (redeems runtime config code) entry = true ∧
    past.countP (happened (redeems runtime config code)) = 1 ∧
    FromOffer runtime config earlier code (clockOf entry 0)

/-- The latest nonce response returned the challenge, less than 300 seconds ago. -/
def FromNonce (older : RecordPast) (challenge : String) (now : Timestamp) : Prop :=
  ∃ entry earlier,
    Latest (answered (returnedNonce runtime config)) older entry earlier ∧
    answered (returnedNonce runtime config) entry = some challenge ∧
    now < clockOf entry 0 + 300 * 1000

/-- Every credential that was issued leads back to an offer; every code is redeemed,
and a credential issued, at most once. -/
structure Chained (past : RecordPast) : Prop where
  credentials : ∀ newer older workflowId authorization body answers snapshot,
    past = newer ++ ⟨snapshot, .request
      ⟨workflowId, .credential authorization body, answers⟩⟩ :: older →
    happened (returnsCredential runtime config) ⟨snapshot, .request
      ⟨workflowId, .credential authorization body, answers⟩⟩ = true →
    ∃ token challenge, presentedToken authorization = some token ∧
      submittedChallenge body = some challenge ∧
      FromRedemption runtime config past older token (answers.clock 0) ∧
      FromNonce runtime config older challenge (answers.clock 1)
  codes : ∀ code, past.countP (happened (redeems runtime config code)) ≤ 1
  issuances : past.countP (happened (returnsCredential runtime config)) ≤ 1

def CodeSent (past : RecordPast) (state : ExchangeOid4vciState) : Prop :=
  ∀ code, state.preAuthorizedCode = some code → code ≠ "" →
    ∃ offer ∈ past, drawnCode offer = some code ∧
      answered (offeredCode runtime config) offer = some code ∧
      state.preAuthorizedCodeExpiresAt = some (codeExpiresAt offer)

def CodeUnspent (past : RecordPast) (state : ExchangeOid4vciState) : Prop :=
  ∀ code, state.preAuthorizedCode = some code → isUsed state.codeUsed = false →
    ∀ entry ∈ past, happened (redeems runtime config code) entry = false

def TokenReturned (past : RecordPast) (state : ExchangeOid4vciState) : Prop :=
  ∀ token, state.accessToken = some token →
    ∃ entry earlier, Latest (answered (returnedToken runtime config)) past entry earlier ∧
      answered (returnedToken runtime config) entry = some token ∧
      state.accessTokenExpiresAt = some (clockOf entry 1 + 600 * 1000)

def NonceReturned (past : RecordPast) (state : ExchangeOid4vciState) : Prop :=
  ∀ nonce, state.cNonce = some nonce →
    ∃ entry earlier, Latest (answered (returnedNonce runtime config)) past entry earlier ∧
      answered (returnedNonce runtime config) entry = some nonce ∧
      state.cNonceExpiresAt = some (clockOf entry 0 + 300 * 1000)

structure Linked (past : RecordPast) (detail : ExchangeDetailClaim) : Prop where
  template : isCredentialTemplate runtime detail.vars.vc = true
  code : CodeSent runtime config past (oid4vciState detail)
  unspent : CodeUnspent runtime config past (oid4vciState detail)
  token : TokenReturned runtime config past (oid4vciState detail)
  nonce : NonceReturned runtime config past (oid4vciState detail)
  ongoing : detail.state ≠ .complete →
    ∀ entry ∈ past, happened (returnsCredential runtime config) entry = false

structure Consistent (recorded : RecordWithPast) : Prop where
  linked : ∀ snapshot, recorded.value = some snapshot →
    ∃ detail, snapshot = .claim detail ∧ Linked runtime config recorded.past detail
  drawn : ∀ entry ∈ recorded.past, ∀ code, happened (redeems runtime config code) entry =
    true → ∃ offer ∈ recorded.past, drawnCode offer = some code
  codes : ∀ code, recorded.past.countP (happened (redeems runtime config code)) ≤ 1
  issuances : recorded.past.countP (happened (returnsCredential runtime config)) ≤ 1

end

/-! ## The links are kept -/

section

variable {runtime : Runtime} {config : Config} {request : StoreRequest}
  {detail after : ExchangeDetailClaim} {past : RecordPast} {entry : RecordEntry}
  {state : ExchangeOid4vciState}

theorem CodeSent.cons (sent : CodeSent runtime config past state) :
    CodeSent runtime config (entry :: past) state := by
  intro code isCode nonempty
  rcases sent code isCode nonempty with ⟨offer, member, isDrawn, isSent, expiry⟩
  exact ⟨offer, List.mem_cons_of_mem _ member, isDrawn, isSent, expiry⟩

theorem CodeUnspent.cons (unspent : CodeUnspent runtime config past state)
    (quiet : ∀ code, happened (redeems runtime config code) entry = false) :
    CodeUnspent runtime config (entry :: past) state := by
  intro code isCode unused other member
  rcases List.mem_cons.mp member with same | earlier
  · rw [same]
    exact quiet code
  · exact unspent code isCode unused other earlier

theorem TokenReturned.cons (returned : TokenReturned runtime config past state)
    (silent : answered (returnedToken runtime config) entry = none) :
    TokenReturned runtime config (entry :: past) state := by
  intro token isToken
  rcases returned token isToken with ⟨latest, earlier, isLatest, same, expiry⟩
  exact ⟨latest, earlier, .later silent isLatest, same, expiry⟩

theorem NonceReturned.cons (returned : NonceReturned runtime config past state)
    (silent : answered (returnedNonce runtime config) entry = none) :
    NonceReturned runtime config (entry :: past) state := by
  intro nonce isNonce
  rcases returned nonce isNonce with ⟨latest, earlier, isLatest, same, expiry⟩
  exact ⟨latest, earlier, .later silent isLatest, same, expiry⟩

private theorem not_redeemed_of_drawn {code : String} (fresh : NoCodeRepeats (entry :: past))
    (isDrawn : drawnCode entry = some code)
    (drawn : ∀ entry ∈ past, ∀ code, happened (redeems runtime config code) entry = true →
      ∃ offer ∈ past, drawnCode offer = some code) :
    ∀ earlier ∈ past, happened (redeems runtime config code) earlier = false := by
  intro earlier member
  cases wins : happened (redeems runtime config code) earlier with
  | false => rfl
  | true =>
      rcases drawn earlier member code wins with ⟨offer, isOffer, same⟩
      unfold NoCodeRepeats at fresh
      rw [List.filterMap_cons_some isDrawn] at fresh
      exact absurd (List.mem_filterMap.mpr ⟨offer, isOffer, same⟩)
        (List.nodup_cons.mp fresh).1

abbrev requestEntry (request : StoreRequest) (detail : ExchangeDetailClaim) : RecordEntry :=
  ⟨some (.claim detail), .request request⟩

theorem ongoing_kept (linked : Linked runtime config past detail)
    (complete : detail.state = .complete → after.state = .complete)
    (finishes : returnsCredential runtime config request (.claim detail) = true →
      after.state = .complete) (ongoing : after.state ≠ .complete) :
    ∀ entry ∈ requestEntry request detail :: past,
      happened (returnsCredential runtime config) entry = false := by
  intro entry member
  rcases List.mem_cons.mp member with same | earlier
  · rw [same]
    cases wins : returnsCredential runtime config request (.claim detail) with
    | false => exact wins
    | true => exact absurd (finishes wins) ongoing
  · exact linked.ongoing (fun was => ongoing (complete was)) entry earlier

theorem linked_step (linked : Linked runtime config past detail)
    (isStep : ClaimStep runtime config request detail after)
    (fresh : NoCodeRepeats (requestEntry request detail :: past))
    (drawn : ∀ entry ∈ past, ∀ code, happened (redeems runtime config code) entry = true →
      ∃ offer ∈ past, drawnCode offer = some code)
    (finishes : returnsCredential runtime config request (.claim detail) = true →
      after.state = .complete) :
    Linked runtime config (requestEntry request detail :: past) after := by
  cases isStep with
  | other quiet sameTemplate sameState complete =>
      have same : oid4vciState after = oid4vciState detail := by
        simp [oid4vciState, sameState]
      constructor
      · rw [sameTemplate]
        exact linked.template
      · rw [same]
        exact linked.code.cons
      · rw [same]
        exact linked.unspent.cons quiet.codes
      · rw [same]
        exact linked.token.cons quiet.token
      · rw [same]
        exact linked.nonce.cons quiet.nonce
      · exact ongoing_kept linked complete finishes
  | drawn offers none known sent =>
      rename_i workflowId answers
      subst offers known
      have isDrawn : drawnCode (requestEntry ⟨"claim", .credentialOffer, answers⟩ detail) =
          some answers.randomBytes := by
        simp [drawnCode, none]
      constructor
      · exact linked.template
      · intro code isCode nonempty
        cases isCode
        exact ⟨_, List.mem_cons_self .., isDrawn, sent nonempty linked.template, rfl⟩
      · intro code isCode _ other member
        cases isCode
        rcases List.mem_cons.mp member with same | earlier
        · rw [same]
          rfl
        · exact not_redeemed_of_drawn fresh isDrawn drawn other earlier
      · exact TokenReturned.cons linked.token rfl
      · exact NonceReturned.cons linked.nonce rfl
      · exact ongoing_kept linked id finishes
  | redeemed accepted returned silent =>
      rcases redeemPreAuthorizedCode_ok accepted with ⟨-, -, rfl⟩
      constructor
      · exact linked.template
      · exact CodeSent.cons linked.code
      · intro code _ unused
        cases unused
      · intro token isToken
        cases isToken
        exact ⟨_, past, .here (Option.isSome_of_eq_some returned), returned, rfl⟩
      · exact NonceReturned.cons linked.nonce silent
      · exact ongoing_kept linked id finishes
  | minted returned silent =>
      constructor
      · exact linked.template
      · exact CodeSent.cons linked.code
      · exact CodeUnspent.cons linked.unspent (redeems_of_silent silent)
      · exact TokenReturned.cons linked.token silent
      · intro nonce isNonce
        cases isNonce
        exact ⟨_, past, .here (Option.isSome_of_eq_some returned), returned, rfl⟩
      · exact ongoing_kept linked id finishes
  | issued quiet signedCredential compatLog =>
      constructor
      · exact linked.template
      · exact CodeSent.cons linked.code
      · exact CodeUnspent.cons linked.unspent quiet.codes
      · exact TokenReturned.cons linked.token quiet.token
      · exact NonceReturned.cons linked.nonce quiet.nonce
      · exact ongoing_kept linked (fun _ => rfl) finishes

end

/-! ## Runs -/

section

variable {runtime : Runtime} {config : Config} {recorded : RecordWithPast}
  {entry : RecordEntry}

theorem Consistent.redeems_stored (consistent : Consistent runtime config recorded)
    {operation : Operation} {code : String}
    (wins : happened (redeems runtime config code) ⟨recorded.value, operation⟩ = true) :
    (∃ offer ∈ recorded.past, drawnCode offer = some code) ∧
      ∀ other ∈ recorded.past, happened (redeems runtime config code) other = false := by
  rcases happened_eq_true wins with ⟨request, snapshot, isFound, -, won⟩
  rcases redeems_spec won with ⟨-, detail, redeemed, _, rfl, -, accepted, -⟩
  rcases redeemPreAuthorizedCode_ok accepted with ⟨stored, unused, -⟩
  have nonempty := (redeemPreAuthorizedCode_current accepted).1
  rcases consistent.linked _ isFound with ⟨same, isSame, linked⟩
  cases isSame
  rcases linked.code code stored nonempty with ⟨offer, member, isDrawn, -⟩
  exact ⟨⟨offer, member, isDrawn⟩, linked.unspent code stored unused⟩

private theorem Consistent.issues_first (consistent : Consistent runtime config recorded)
    {operation : Operation}
    (wins : happened (returnsCredential runtime config) ⟨recorded.value, operation⟩ =
      true) :
    ∀ other ∈ recorded.past, happened (returnsCredential runtime config) other = false := by
  rcases happened_eq_true wins with ⟨request, snapshot, isFound, -, won⟩
  rcases consistent.linked _ isFound with ⟨detail, rfl, linked⟩
  exact linked.ongoing (returnsCredential_spends won).1

private theorem Consistent.token_redeems {earlier : RecordPast} {token : String}
    (consistent : Consistent runtime config ⟨entry.found, earlier⟩)
    (returned : answered (returnedToken runtime config) entry = some token) :
    ∃ code, happened (redeems runtime config code) entry = true ∧
      FromOffer runtime config earlier code (clockOf entry 0) := by
  rcases entry with ⟨found, operation⟩
  rcases answered_eq_some returned with ⟨request, snapshot, rfl, rfl, isReturned⟩
  rcases returnedToken_spec isReturned with
    ⟨-, detail, code, redeemed, _, rfl, wins, -, accepted, -⟩
  refine ⟨code, wins, ?_⟩
  rcases redeemPreAuthorizedCode_ok accepted with ⟨stored, -, -⟩
  rcases redeemPreAuthorizedCode_current accepted with ⟨nonempty, time, isTime, inTime⟩
  rcases consistent.linked _ rfl with ⟨same, isSame, linked⟩
  cases isSame
  rcases linked.code code stored nonempty with ⟨offer, member, isDrawn, isSent, expiry⟩
  refine ⟨offer, member, isDrawn, isSent, ?_⟩
  have sameTime : time = codeExpiresAt offer := Option.some.inj (isTime.symm.trans expiry)
  rw [← sameTime]
  exact inTime

private theorem Consistent.linked_next (consistent : Consistent runtime config recorded)
    (operation : Operation)
    (fresh : NoCodeRepeats (⟨recorded.value, operation⟩ :: recorded.past)) :
    ∀ snapshot, applied runtime config operation recorded.value = some snapshot →
      ∃ detail, snapshot = .claim detail ∧
        Linked runtime config (⟨recorded.value, operation⟩ :: recorded.past) detail := by
  intro snapshot isApplied
  cases found : recorded.value with
  | none =>
      rw [found] at isApplied
      exact absurd isApplied (applied_none operation snapshot)
  | some stored =>
      rcases consistent.linked stored found with ⟨detail, rfl, linked⟩
      rw [found] at isApplied fresh
      cases operation with
      | evict => cases isApplied
      | work answers =>
          cases isApplied
          refine ⟨detail, rfl, linked.template, linked.code.cons, linked.unspent.cons ?_,
            linked.token.cons rfl, linked.nonce.cons rfl, ?_⟩
          · exact fun _ => rfl
          · intro ongoing entry member
            rcases List.mem_cons.mp member with same | earlier
            · rw [same]
              rfl
            · exact linked.ongoing ongoing entry earlier
      | request request =>
          rcases claim_step runtime config request detail with ⟨after, stores, isStep⟩
          rw [stores] at isApplied
          cases isApplied
          refine ⟨after, rfl, linked_step linked isStep fresh consistent.drawn ?_⟩
          intro wins
          rcases (returnsCredential_spends wins).2 with ⟨next, saved, completed⟩
          cases stores.symm.trans (applied_written saved)
          exact completed

theorem consistent_next (consistent : Consistent runtime config recorded)
    (operation : Operation)
    (fresh : NoCodeRepeats (⟨recorded.value, operation⟩ :: recorded.past)) :
    Consistent runtime config (next (applied runtime config) recorded operation) where
  linked := consistent.linked_next operation fresh
  drawn := by
    intro entry member code wins
    rcases List.mem_cons.mp member with same | earlier
    · rw [same] at wins
      rcases (consistent.redeems_stored wins).1 with ⟨offer, isOffer, isDrawn⟩
      exact ⟨offer, List.mem_cons_of_mem _ isOffer, isDrawn⟩
    · rcases consistent.drawn entry earlier code wins with ⟨offer, isOffer, isDrawn⟩
      exact ⟨offer, List.mem_cons_of_mem _ isOffer, isDrawn⟩
  codes code := countP_cons_le_one (fun wins => (consistent.redeems_stored wins).2)
    (consistent.codes code)
  issuances := countP_cons_le_one (fun wins => consistent.issues_first wins)
    consistent.issuances

theorem start_consistent {detail : ExchangeDetailClaim}
    (created : detail.vars.oid4vci = none)
    (template : isCredentialTemplate runtime detail.vars.vc = true) :
    Consistent runtime config (start (some (.claim detail))) := by
  have empty : oid4vciState detail = {} := by simp [oid4vciState, created]
  refine ⟨?_, fun _ member => (nomatch member), fun _ => Nat.zero_le 1, Nat.zero_le 1⟩
  intro snapshot isStored
  cases isStored
  refine ⟨detail, rfl, template, ?_, ?_, ?_, ?_, fun _ _ member => (nomatch member)⟩
  · intro code isCode
    rw [empty] at isCode
    cases isCode
  · intro code isCode
    rw [empty] at isCode
    cases isCode
  · intro token isToken
    rw [empty] at isToken
    cases isToken
  · intro nonce isNonce
    rw [empty] at isNonce
    cases isNonce

private theorem consistent_throughout {detail : ExchangeDetailClaim}
    {operations : List Operation} {final : RecordWithPast}
    (created : detail.vars.oid4vci = none)
    (template : isCredentialTemplate runtime detail.vars.vc = true)
    (runs : Machine.run (recordStep runtime config) (start (some (.claim detail)))
      operations = some final)
    (fresh : NoCodeRepeats final.past) :
    Consistent runtime config final ∧
      ∀ newer entry older, final.past = newer ++ entry :: older →
        Consistent runtime config ⟨entry.found, older⟩ := by
  have always := holds_always
    (fun recorded => NoCodeRepeats recorded.past → Consistent runtime config recorded)
    (fun recorded operation holding isFresh =>
      consistent_next (holding (List.Nodup.sublist ((List.sublist_cons_self _ _).filterMap _)
        isFresh)) operation isFresh)
    (fun _ => start_consistent created template) rfl runs
  refine ⟨always.1 fresh, ?_⟩
  intro newer entry older split
  apply always.2 newer entry older split
  rw [split] at fresh
  apply List.Nodup.sublist _ fresh
  exact ((List.sublist_cons_self entry older).trans
    (List.sublist_append_right newer _)).filterMap _

/-- Every credential of a run leads back to an offer, over a token and a nonce that
were the latest when it was issued. -/
theorem provenance {detail : ExchangeDetailClaim} {operations : List Operation}
    {final : RecordWithPast} (created : detail.vars.oid4vci = none)
    (template : isCredentialTemplate runtime detail.vars.vc = true)
    (runs : Machine.run (recordStep runtime config) (start (some (.claim detail)))
      operations = some final)
    (fresh : NoCodeRepeats final.past) : Chained runtime config final.past := by
  rcases consistent_throughout created template runs fresh with ⟨consistent, before⟩
  refine ⟨?_, consistent.codes, consistent.issuances⟩
  intro newer older workflowId authorization body answers snapshot split wins
  rcases happened_eq_true wins with ⟨request, stored, isFound, isRequest, won⟩
  cases isRequest
  rcases (before newer _ older split).linked stored isFound with ⟨holder, rfl, linked⟩
  have admitted := credential_admitted won
  rcases admitted.token with ⟨token, expiresAt, isPresented, isStored, isTime, inTime⟩
  rcases admitted.nonce with
    ⟨challenge, nonceExpiresAt, isSubmitted, isNonce, isNonceTime, nonceInTime⟩
  refine ⟨token, challenge, isPresented, isSubmitted, ?_, ?_⟩
  · rcases linked.token token isStored with ⟨entry, earlier, latest, returned, expiry⟩
    -- the record the token request found was linked to what came before it
    rcases latest.split with ⟨between, isPast, -⟩
    have isOlder : older = between ++ entry :: earlier := isPast
    have isSplit : final.past = (newer ++ ⟨snapshot, .request
        ⟨workflowId, .credential authorization body, answers⟩⟩ :: between) ++
          entry :: earlier := by
      rw [split, isOlder, List.append_assoc, List.cons_append]
    rcases (before _ entry earlier isSplit).token_redeems returned with
      ⟨code, redeemed, fromOffer⟩
    have once : final.past.countP (happened (redeems runtime config code)) = 1 := by
      have member : entry ∈ final.past := by
        rw [isSplit]
        simp
      have atLeastOne := List.countP_pos_iff.mpr ⟨entry, member, redeemed⟩
      have atMostOne := consistent.codes code
      omega
    rw [expiry] at isTime
    cases isTime
    exact ⟨entry, earlier, code, latest, returned, inTime, redeemed, once, fromOffer⟩
  · rcases linked.nonce challenge isNonce with ⟨entry, earlier, latest, returned, expiry⟩
    refine ⟨entry, earlier, latest, returned, ?_⟩
    rw [expiry] at isNonceTime
    cases isNonceTime
    exact nonceInTime

end

/-! ## A wallet that claims its credential -/

def claimRuntime : Runtime :=
  { Runtime.plain with
    parseJson := fun _ => some (.obj [
      ("type", .arr [.str "VerifiableCredential"]), ("credentialSubject", .obj [])]) }

def createdClaim : ExchangeDetailClaim where
  tenantName := "default"
  exchangeId := "exchange-1"
  expires := 600000
  state := .pending
  vars := {
    exchangeHost := "http://localhost:4004"
    challenge := "challenge-1"
    vc := "the credential" }

def keyProofRequest : Json :=
  .obj [
    ("credential_configuration_id", .str "VerifiableCredential"),
    ("proofs", .obj [("di_vp", .arr [.obj [
      ("@context", .arr [.str "https://www.w3.org/2018/credentials/v1"]),
      ("type", .arr [.str "VerifiablePresentation"]),
      ("proof", .obj [
        ("type", .str "DataIntegrityProof"),
        ("created", .str "2026-01-01T00:00:00Z"),
        ("verificationMethod", .str "did:example:holder#key-1"),
        ("proofPurpose", .str "authentication"),
        ("challenge", .str "nonce-1"),
        ("proofValue", .str "z1")])]])])]

def claimRequest (endpoint : Endpoint) (randomBytes : String) : Operation :=
  .request ⟨"claim", endpoint, { Answers.plain with randomBytes }⟩

def walletRun : List Operation := [
  claimRequest .credentialOffer "code-1",
  claimRequest (.token (.obj [("grant_type", .str preAuthorizedGrant),
    ("pre-authorized_code", .str "code-1")])) "token-1",
  claimRequest .nonce "nonce-1",
  claimRequest (.credential (some "Bearer token-1") (some keyProofRequest)) ""]

theorem provenance_of_wallet :
    ∃ final, Machine.run (recordStep claimRuntime {}) (start (some (.claim createdClaim)))
        walletRun = some final ∧
      final.past.countP (happened (returnsCredential claimRuntime {})) = 1 ∧
      Chained claimRuntime {} final.past := by
  have ran : ∃ final, Machine.run (recordStep claimRuntime {})
      (start (some (.claim createdClaim))) walletRun = some final ∧
        final.past.countP (happened (returnsCredential claimRuntime {})) = 1 ∧
        NoCodeRepeats final.past :=
    ⟨_, rfl, by decide, List.nodup_singleton "code-1"⟩
  rcases ran with ⟨final, runs, issued, fresh⟩
  exact ⟨final, runs, issued, provenance rfl (by decide) runs fresh⟩

end TransactionService.Provenance
