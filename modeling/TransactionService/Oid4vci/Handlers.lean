import TransactionService.Foundation.Fallible
import TransactionService.Oid4vci.State
import TransactionService.Workflows.ClaimWorkflow

namespace TransactionService

open Fallible

/-! # OID4VCI endpoints

The credential offer, and the token, nonce and credential handlers. -/

def errorResponse (status : Nat) (error description : String) : Response :=
  json (.obj [("error", .str error), ("error_description", .str description)]) status

/-! ## Credential offer -/

def credentialOfferUriForExchange (exchange : ExchangeDetailClaim) : String :=
  exchangeUrl (.claim exchange) ++ "/openid/credential-offer"

def preAuthorizedGrant : String :=
  "urn:ietf:params:oauth:grant-type:pre-authorized_code"

/-- Reading `type` off a template that is the JSON value `null` throws. -/
def deriveCredentialConfigurationId (runtime : Runtime) (vcTemplate : String) :
    Except Thrown String :=
  let fallback := "VerifiableCredential"
  match runtime.parseJson vcTemplate with
  | none => .ok fallback
  | some .null => .error (.error "Cannot read properties of null")
  | some parsed =>
      let types := match parsed.field "type" with
        | some (.arr types) => types
        | some type => if type.isTruthy then [type] else []
        | none => []
      match (types.filterMap Json.asString?).find? (· ≠ "VerifiableCredential") with
      | some nonBase => .ok nonBase
      | none => .ok fallback

theorem deriveCredentialConfigurationId_succeeds {runtime : Runtime} {vc : String} :
    Succeeds (deriveCredentialConfigurationId runtime vc) ↔
      runtime.parseJson vc ≠ some .null := by
  unfold deriveCredentialConfigurationId
  cases runtime.parseJson vc with
  | none => simp [Succeeds]
  | some parsed =>
      cases parsed with
      | null => simp [Succeeds]
      | _ =>
          constructor
          · simp
          · intro _
            dsimp only
            split <;> exact ⟨_, rfl⟩

theorem deriveCredentialConfigurationId_ok {runtime : Runtime} {vc : String}
    (template : isCredentialTemplate runtime vc = true) :
    ∃ configId, deriveCredentialConfigurationId runtime vc = .ok configId := by
  apply deriveCredentialConfigurationId_succeeds.mpr
  intro isNull
  unfold isCredentialTemplate at template
  rw [isNull] at template
  cases template

def buildCredentialOffer (runtime : Runtime) (exchange : ExchangeDetailClaim) :
    Except Thrown Json :=
  match Text.given (oid4vciState exchange).preAuthorizedCode with
  | none => .error (.error
      "buildCredentialOffer called before ensurePreAuthorizedCode set a code.")
  | some code => do
      let configId ← deriveCredentialConfigurationId runtime exchange.vars.vc
      return .obj [
        ("credential_issuer", .str (exchangeUrl (.claim exchange))),
        ("credential_configuration_ids", .arr [.str configId]),
        ("grants", .obj [(preAuthorizedGrant,
          .obj [("pre-authorized_code", .str code)])])]

section

variable (runtime : Runtime) (config : Config) (answers : Answers)

/-- The code lives at most ten minutes, and at least until the next second. -/
def codeTtlSec (exchange : ExchangeDetailClaim) : Int :=
  let exchangeRemainingSec := max 1 ((exchange.expires - answers.clock 0).fdiv 1000)
  min 600 exchangeRemainingSec

def credentialOfferRoute (exchange : ExchangeDetailClaim) : Handler Response := do
  let ensured := ensurePreAuthorizedCode answers exchange (codeTtlSec answers exchange)
  if ensured.2 then
    saveExchange answers (.claim ensured.1)
  let offer ← Action.ofExcept (buildCredentialOffer runtime ensured.1)
  return json offer

/-! ## Tokens and nonces -/

def accessTokenTtlSeconds : Int := 600

def nonceTtlSeconds : Int := 300

structure TokenRequest where
  grantType : String
  preAuthorizedCode : Option String

/-- `tokenRequestSchema`. -/
def parseTokenRequest (body : Json) : Option TokenRequest :=
  match body.field "grant_type", body.field "pre-authorized_code" with
  | some (.str grantType), none =>
      if grantType = "" then none else some { grantType, preAuthorizedCode := none }
  | some (.str grantType), some (.str code) =>
      if grantType = "" then none else some { grantType, preAuthorizedCode := some code }
  | _, _ => none

def handleTokenRequest (body : Json) (exchange : ExchangeDetailClaim) :
    Except Response (ExchangeDetailClaim × Json) :=
  match parseTokenRequest body with
  | none => .error (errorResponse 400 "invalid_request" "Token request body is malformed.")
  | some request =>
      if request.grantType ≠ preAuthorizedGrant then
        .error (errorResponse 400 "unsupported_grant_type"
          ("Unsupported grant_type: " ++ request.grantType))
      else
        match Text.given request.preAuthorizedCode with
        | none => .error (errorResponse 400 "invalid_request"
            "pre-authorized_code is required for this grant type.")
        | some presented =>
            match redeemPreAuthorizedCode (answers.clock 0) exchange presented with
            | .error failure => .error (errorResponse 400
                (if failure.error = "invalid_request" then "invalid_request"
                  else "invalid_grant")
                failure.reason)
            | .ok redeemed => .ok (
                setAccessToken answers (answers.clock 1) redeemed accessTokenTtlSeconds,
                .obj [
                  ("access_token", .str answers.randomBytes),
                  ("token_type", .str "Bearer"),
                  ("expires_in", .num (toString accessTokenTtlSeconds))])

def tokenRoute (body : Json) (exchange : ExchangeDetailClaim) : Handler Response :=
  match handleTokenRequest answers body exchange with
  | .error response => return response
  | .ok (updated, response) => do
      saveExchange answers (.claim updated)
      return json response

def handleNonceRequest (exchange : ExchangeDetailClaim) : ExchangeDetailClaim :=
  mintNonce answers (answers.clock 0) exchange nonceTtlSeconds

def nonceRoute (exchange : ExchangeDetailClaim) : Handler Response := do
  saveExchange answers (.claim (handleNonceRequest answers exchange))
  return json (.obj [("c_nonce", .str answers.randomBytes)])

/-! ## Credentials -/

/-- A challenge on some proof of an array; reading it off `null` throws. -/
def firstChallenge : List Json → Except Thrown (Option String)
  | [] => .ok none
  | .null :: _ => .error (.error "Cannot read properties of null")
  | proof :: rest =>
      match proof.field "challenge" with
      | some (.str challenge) => .ok (some challenge)
      | _ => firstChallenge rest

def extractVpChallenge (vp : Json) : Except Thrown (Option String) :=
  match vp.field "challenge" with
  | some (.str top) => .ok (some top)
  | _ =>
      match vp.field "proof" with
      | some (.arr proofs) => firstChallenge proofs
      | some proof => .ok ((proof.field "challenge").bind Json.asString?)
      | none => .ok none

structure CredentialRequest where
  credentialConfigurationId : String
  diVp : Json

/-- `credentialRequestSchema`, with the first of the key proofs. -/
def parseCredentialRequest (body : Json) : Option CredentialRequest := do
  let configurationId ← (body.field "credential_configuration_id").bind Json.asString?
  if configurationId = "" then none
  else
    let proofs ← body.field "proofs"
    match proofs.field "di_vp" with
    | some (.arr (.obj first :: rest)) =>
        if rest.all Schema.isRecord then some {
          credentialConfigurationId := configurationId
          diVp := .obj (zodRecord first) }
        else none
    | _ => none

/-- The part after DIDAuth: the holder must be the signer. -/
def issueToHolder (vp : Json) (working : ExchangeDetailClaim) (workflow : Workflow)
    (didAuthResult : DidAuthVerificationResult) : Handler Response :=
  match didAuthResult with
  | .rejected _ _ => pure <| errorResponse 400 "invalid_proof" "DIDAuth verification failed."
  | .verified none _ => pure <| errorResponse 400 "invalid_proof"
      "Could not determine holder DID from the di_vp proof signer."
  | .verified (some holderDid) compatLog =>
      if (Text.given (extractHolderDid vp)).any (· ≠ holderDid) then
        pure <| errorResponse 400 "invalid_proof"
          "Presentation holder does not match the proof signer."
      else do
        let signed ← signClaimCredentialFromHolderDid runtime config answers
          (some holderDid) working workflow
          (extractWalletCryptosuitesFromPresentation vp) compatLog
        if !Json.truthy signed then
          pure <| errorResponse 400 "credential_request_denied"
            "Workflow has no credential template configured."
        else
          return json (.obj [("credentials", .arr (signed.toList.map fun credential =>
            .obj [("credential", credential)]))])

def handleKeyProof (request : CredentialRequest) (exchange : ExchangeDetailClaim)
    (workflow : Workflow) : Handler Response := do
  let expectedConfigId ←
    Action.ofExcept (deriveCredentialConfigurationId runtime exchange.vars.vc)
  if request.credentialConfigurationId ≠ expectedConfigId then
    pure <| errorResponse 400 "unknown_credential_configuration"
      ("Credential configuration " ++ request.credentialConfigurationId ++
        " is not offered by this exchange.")
  else
    let challenge ← Action.ofExcept (extractVpChallenge request.diVp)
    match Text.given challenge with
    | none =>
        return errorResponse 400 "invalid_proof"
          "di_vp proof must include a challenge bound to a c_nonce."
    | some challenge =>
        match validateAndConsumeNonce (answers.clock 1) exchange challenge with
        | .error failure => return errorResponse 400 "invalid_nonce" failure.reason
        | .ok working =>
            let debug := exchange.vars.debug.getD config.defaultExchangeDebug
            let didAuthResult ← verifyDIDAuth runtime answers request.diVp challenge debug
            issueToHolder runtime config answers request.diVp working workflow didAuthResult

def handleCredentialRequest (accessToken : Option String) (body : Json)
    (exchange : ExchangeDetailClaim) (workflow : Workflow) : Handler Response :=
  match Text.given accessToken with
  | none => pure <| errorResponse 401 "invalid_token" "Missing Bearer access token."
  | some accessToken =>
      match validateAccessToken (answers.clock 0) exchange accessToken with
      | .error failure => pure <| errorResponse 401 "invalid_token" failure.reason
      | .ok _ =>
          if exchange.state = .complete then
            pure <| errorResponse 400 "credential_request_denied"
              "A credential has already been issued for this exchange."
          else
            match parseCredentialRequest body with
            | none => pure <| errorResponse 400 "invalid_credential_request"
                "Credential request body is malformed."
            | some request => handleKeyProof runtime config answers request exchange workflow

/-- `body` is `none` when the request body is not JSON. -/
def credentialRoute (authorization : Option String) (body : Option Json)
    (exchange : ExchangeDetailClaim) : Handler Response :=
  let auth := authorization.getD ""
  let accessToken :=
    if Text.startsWith "Bearer " auth then some (Text.trim (Text.sliceFrom 7 auth))
    else none
  match body with
  | none => pure <| errorResponse 400 "invalid_credential_request"
      "Credential request body must be JSON."
  | some body =>
      handleCredentialRequest runtime config answers accessToken body exchange
        (getWorkflow .claim)

/-! ## What the token endpoint answers -/

theorem handleTokenRequest_ok {body response : Json}
    {exchange updated : ExchangeDetailClaim}
    (handled : handleTokenRequest answers body exchange = .ok (updated, response)) :
    ∃ presented redeemed,
      (parseTokenRequest body).bind (·.preAuthorizedCode) = some presented ∧
      redeemPreAuthorizedCode (answers.clock 0) exchange presented = .ok redeemed ∧
      updated = setAccessToken answers (answers.clock 1) redeemed accessTokenTtlSeconds := by
  unfold handleTokenRequest at handled
  split at handled
  · cases handled
  · rename_i request parsed
    split at handled
    · cases handled
    · split at handled
      · cases handled
      · rename_i presented isGiven
        split at handled
        · cases handled
        · rename_i redeemed accepted
          cases handled
          refine ⟨presented, redeemed, ?_, accepted, rfl⟩
          rw [parsed]
          exact (Option.filter_eq_some_iff.mp isGiven).1

theorem handleTokenRequest_error {body : Json} {exchange : ExchangeDetailClaim}
    {response : Response}
    (refused : handleTokenRequest answers body exchange = .error response) :
    response.status = 400 := by
  unfold handleTokenRequest at refused
  split at refused
  · cases refused
    rfl
  · split at refused
    · cases refused
      rfl
    · split at refused
      · cases refused
        rfl
      · split at refused
        · cases refused
          rfl
        · cases refused

/-! ## What the credential endpoint writes -/

theorem issueToHolder_saved {vp : Json} {working : ExchangeDetailClaim}
    {workflow : Workflow} {didAuthResult : DidAuthVerificationResult} {record : Exchange}
    (writes : (issueToHolder runtime config answers vp working workflow
      didAuthResult).saved = some record) :
    ∃ signedCredential compatLog,
      record = .claim (claimCompleted working signedCredential compatLog) := by
  unfold issueToHolder at writes
  split at writes
  · cases writes
  · cases writes
  · split at writes
    · cases writes
    · rename_i compatLog _
      rcases Action.saved_bind writes with signs | ⟨signed, -, returns⟩
      · rcases signClaimCredentialFromHolderDid_saved runtime config answers signs with
          ⟨signedCredential, same⟩
        exact ⟨signedCredential, compatLog, same⟩
      · split at returns <;> cases returns

theorem handleKeyProof_saved {request : CredentialRequest} {exchange : ExchangeDetailClaim}
    {workflow : Workflow} {record : Exchange}
    (writes : (handleKeyProof runtime config answers request exchange workflow).saved =
      some record) :
    ∃ signedCredential compatLog,
      record = .claim (claimCompleted
        (withOid4vci exchange { oid4vciState exchange with nonceUsed := some true })
        signedCredential compatLog) := by
  unfold handleKeyProof at writes
  rcases Action.saved_bind_of_none rfl writes with ⟨expectedConfigId, -, afterConfig⟩
  dsimp only at afterConfig
  split at afterConfig
  · cases afterConfig
  · rcases Action.saved_bind_of_none rfl afterConfig with ⟨presented, -, afterChallenge⟩
    split at afterChallenge
    · cases afterChallenge
    · split at afterChallenge
      · cases afterChallenge
      · rename_i working consumed
        rcases Action.saved_bind_of_none (verifyDIDAuth_saved ..) afterChallenge with
          ⟨didAuthResult, -, issues⟩
        rw [← validateAndConsumeNonce_ok consumed]
        exact issueToHolder_saved runtime config answers issues

theorem credentialRoute_saved {authorization : Option String} {body : Option Json}
    {exchange : ExchangeDetailClaim} {record : Exchange}
    (writes : (credentialRoute runtime config answers authorization body exchange).saved =
      some record) :
    exchange.state ≠ .complete ∧ ∃ signedCredential compatLog,
      record = .claim (claimCompleted
        (withOid4vci exchange { oid4vciState exchange with nonceUsed := some true })
        signedCredential compatLog) := by
  unfold credentialRoute at writes
  dsimp only at writes
  split at writes
  · cases writes
  · unfold handleCredentialRequest at writes
    split at writes
    · cases writes
    · split at writes
      · cases writes
      · split at writes
        · cases writes
        · rename_i ongoing
          split at writes
          · cases writes
          · exact ⟨ongoing, handleKeyProof_saved runtime config answers writes⟩

end

end TransactionService
