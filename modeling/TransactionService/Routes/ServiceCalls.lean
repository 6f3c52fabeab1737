import TransactionService.Routes.SingleUse
import TransactionService.Workflows.HolderAgreement

namespace TransactionService.ServiceCalls

open HolderAgreement

/-! # Which services a request calls

The verifier is asked by many handlers. The status service and the signing service
are asked for claim exchanges alone, and the signing service in the name of the
tenant of the exchange. -/

/-! ## What may be asked -/

/-- A credential on its way to the signing service: the instance that the wallet's
suites select for the tenant, and the credential with that issuer. -/
inductive SigningCall (runtime : Runtime) (config : Config) (answers : Answers)
    (tenantName : String) : String → Json → Prop
  | mk {exchange : ExchangeDetailClaim} {walletCryptosuites : List String}
      {credential body : Json} (same : exchange.tenantName = tenantName)
      (allocated : Allocated config answers (withIssuer (issuerInstanceFor runtime config
        exchange walletCryptosuites) credential) body) :
      SigningCall runtime config answers tenantName (signEndpoint config exchange
        (issuerInstanceFor runtime config exchange walletCryptosuites)) body

/-- The calls by which a task gathers what it needs; `tenantName` is the tenant for
which it issues, if it does. -/
inductive Asks (runtime : Runtime) (config : Config) (answers : Answers)
    (tenantName : Option String) : Call → Prop
  | verifyPresentation (call : VerifyPresentationCall) :
      Asks runtime config answers tenantName (.verifyPresentation call)
  | verifyCredential (call : VerifyCredentialCall) :
      Asks runtime config answers tenantName (.verifyCredential call)
  | allocate {issuer : String} {body : Json} (issues : tenantName = some issuer)
      (configured : config.statusService ≠ "") :
      Asks runtime config answers tenantName (.callService (allocateEndpoint config) body)
  | sign {issuer endpoint : String} {body : Json} (issues : tenantName = some issuer)
      (signs : SigningCall runtime config answers issuer endpoint body) :
      Asks runtime config answers tenantName (.callService endpoint body)

def issuingTenant : Exchange → Option String
  | .claim exchange => some exchange.tenantName
  | _ => none

inductive Makes (runtime : Runtime) (config : Config) (answers : Answers)
    (loaded : Exchange) : Call → Prop
  | asks {call : Call} (asked : Asks runtime config answers (issuingTenant loaded) call) :
      Makes runtime config answers loaded call
  | enqueues : Makes runtime config answers loaded (.enqueueVerifyTask loaded.exchangeId)

section

variable (runtime : Runtime) (config : Config) (answers : Answers)
  {tenantName : Option String}

abbrev OnlyAsks (tenantName : Option String) {α : Type} (action : Handler α) : Prop :=
  action.CallsOnly (Asks runtime config answers tenantName)

abbrev OnlyMakes (loaded : Exchange) {α : Type} (action : Handler α) : Prop :=
  action.CallsOnly (Makes runtime config answers loaded)

theorem save_asks (exchange : Exchange) :
    OnlyAsks runtime config answers tenantName (saveExchange answers exchange) :=
  .of_silent (saveExchange_calls answers exchange)

/-! ## Holders and claims -/

theorem verifyDIDAuth_asks (presentation : Json) (challenge : String) (debug : Bool) :
    OnlyAsks runtime config answers tenantName
      (verifyDIDAuth runtime answers presentation challenge debug) := by
  constructor
  intro call made
  rcases (mem_calls_verifyDIDAuth runtime answers).mp made with ⟨-, rfl⟩
  exact .verifyPresentation _

theorem participateInDidAuthExchange_asks (data : Json) (exchange : ExchangeDetailDidAuth) :
    OnlyAsks runtime config answers tenantName
      (participateInDidAuthExchange runtime config answers data exchange) := by
  unfold participateInDidAuthExchange
  apply Action.CallsOnly.bind (verifyDIDAuth_asks ..)
  intro verdict _
  match verdict with
  | .rejected _ _ => exact .fail _
  | .verified none _ => exact .fail _
  | .verified (some holder) compatLog =>
      exact .bind (save_asks ..) fun _ _ => .value _

private theorem allocateStatus_asks (issuer : String) (credential : Json) :
    OnlyAsks runtime config answers (some issuer)
      (allocateStatus config answers credential) := by
  unfold allocateStatus
  split
  · exact .value _
  · rename_i configured
    exact .perform _ (.allocate rfl configured)

private theorem issueCredential_asks (exchange : ExchangeDetailClaim)
    (walletCryptosuites : List String) (compatLog : Option (List CheckResult))
    (credential : Json) :
    OnlyAsks runtime config answers (some exchange.tenantName)
      (issueCredential runtime config answers exchange walletCryptosuites compatLog
        credential) := by
  unfold issueCredential
  apply Action.CallsOnly.bind (allocateStatus_asks ..)
  intro allocated answered
  apply Action.CallsOnly.bind
  · exact .perform _ (.sign rfl ⟨rfl, allocateStatus_ok.mp answered⟩)
  · intro signed _
    exact .bind (save_asks ..) fun _ _ => .value _

theorem signClaimCredentialFromHolderDid_asks (holderDid : Option String)
    (exchange : ExchangeDetailClaim) (workflow : Workflow) (walletCryptosuites : List String)
    (compatLog : Option (List CheckResult)) :
    OnlyAsks runtime config answers (some exchange.tenantName)
      (signClaimCredentialFromHolderDid runtime config answers holderDid exchange
        workflow walletCryptosuites compatLog) := by
  unfold signClaimCredentialFromHolderDid
  split
  · exact .fail _
  · split
    · exact .value _
    · split
      · exact .fail _
      · exact .map (issueCredential_asks ..) _

theorem participateInClaimExchange_asks (data : Json) (exchange : ExchangeDetailClaim)
    (workflow : Workflow) :
    OnlyAsks runtime config answers (some exchange.tenantName)
      (participateInClaimExchange runtime config answers data exchange workflow) := by
  have finishes : ∀ holderDid compatLog,
      OnlyAsks runtime config answers (some exchange.tenantName)
        (participateInClaimExchange.finish runtime config answers data exchange workflow
          holderDid compatLog) := by
    intro holderDid compatLog
    apply Action.CallsOnly.bind (signClaimCredentialFromHolderDid_asks ..)
    intro signed _
    dsimp only
    split <;> exact .value _
  unfold participateInClaimExchange
  apply Action.CallsOnly.bind (verifyDIDAuth_asks ..)
  intro verdict _
  match verdict with
  | .rejected _ _ => exact .fail _
  | .verified holderDid compatLog =>
      dsimp only
      split
      · split
        · exact .fail _
        · exact finishes _ _
      · exact finishes _ _

theorem participateWithEmptyBody_asks (exchange : Exchange) :
    OnlyAsks runtime config answers tenantName
      (participateWithEmptyBody answers exchange) := by
  unfold participateWithEmptyBody
  dsimp only
  split
  · exact .bind (save_asks ..) fun _ _ => .value _
  · exact .value _

/-! ## OID4VCI -/

theorem credentialOfferRoute_asks (exchange : ExchangeDetailClaim) :
    OnlyAsks runtime config answers tenantName
      (credentialOfferRoute runtime answers exchange) := by
  have offers : ∀ detail, OnlyAsks runtime config answers tenantName (do
      let offer ← Action.ofExcept (buildCredentialOffer runtime detail)
      return json offer : Handler Response) :=
    fun detail => .after fun _ _ => .value _
  unfold credentialOfferRoute
  dsimp only
  split
  · exact .bind (save_asks ..) fun _ _ => offers _
  · exact offers _

theorem tokenRoute_asks (body : Json) (exchange : ExchangeDetailClaim) :
    OnlyAsks runtime config answers tenantName (tokenRoute answers body exchange) := by
  unfold tokenRoute
  split
  · exact .value _
  · exact .bind (save_asks ..) fun _ _ => .value _

theorem nonceRoute_asks (exchange : ExchangeDetailClaim) :
    OnlyAsks runtime config answers tenantName (nonceRoute answers exchange) :=
  .bind (save_asks ..) fun _ _ => .value _

private theorem issueToHolder_asks (vp : Json) (working : ExchangeDetailClaim) (workflow : Workflow)
    (verdict : DidAuthVerificationResult) :
    OnlyAsks runtime config answers (some working.tenantName)
      (issueToHolder runtime config answers vp working workflow verdict) := by
  unfold issueToHolder
  split
  · exact .value _
  · exact .value _
  · split
    · exact .value _
    · apply Action.CallsOnly.bind (signClaimCredentialFromHolderDid_asks ..)
      intro signed _
      split <;> exact .value _

private theorem handleKeyProof_asks (request : CredentialRequest) (exchange : ExchangeDetailClaim)
    (workflow : Workflow) :
    OnlyAsks runtime config answers (some exchange.tenantName)
      (handleKeyProof runtime config answers request exchange workflow) := by
  unfold handleKeyProof
  apply Action.CallsOnly.after
  intro expected _
  split
  · exact .value _
  · apply Action.CallsOnly.after
    intro challenge _
    split
    · exact .value _
    · split
      · exact .value _
      · rename_i working consumed
        cases validateAndConsumeNonce_ok consumed
        apply Action.CallsOnly.bind (verifyDIDAuth_asks ..)
        intro verdict _
        exact issueToHolder_asks runtime config answers _ (withOid4vci exchange _) _ _

theorem credentialRoute_asks (authorization : Option String) (body : Option Json)
    (exchange : ExchangeDetailClaim) :
    OnlyAsks runtime config answers (some exchange.tenantName)
      (credentialRoute runtime config answers authorization body exchange) := by
  unfold credentialRoute
  dsimp only
  split
  · exact .value _
  · unfold handleCredentialRequest
    split
    · exact .value _
    · split
      · exact .value _
      · split
        · exact .value _
        · split
          · exact .value _
          · exact handleKeyProof_asks ..

/-! ## Verification -/

theorem oid4vpRequestRoute_asks (exchange : ExchangeDetailVerify) :
    OnlyAsks runtime config answers tenantName
      (oid4vpRequestRoute runtime answers exchange) := by
  have requests : ∀ detail, OnlyAsks runtime config answers tenantName (do
      let request ← Action.ofExcept (buildAuthorizationRequest runtime detail)
      return json request : Handler Response) :=
    fun detail => .after fun _ _ => .value _
  unfold oid4vpRequestRoute
  dsimp only
  split
  · exact .bind (save_asks ..) fun _ _ => requests _
  · exact requests _

private theorem openBadgesPass_asks (exchange : ExchangeDetailVerify) (made : Nat)
    (merged : VerificationResult) (indices : List Nat) :
    (openBadgesPass runtime config answers exchange made merged indices).CallsOnly
      (Asks runtime config answers tenantName) := by
  induction indices generalizing made merged with
  | nil => exact .value _
  | cons index rest induction =>
      unfold openBadgesPass
      split
      · exact induction made merged
      · apply Action.CallsOnly.bind (.perform _ (.verifyCredential _))
        intro obResult _
        exact induction (made + 1) _

theorem saveExchangeWithCAS_asks (accepted : Bool) (stored : Option Exchange)
    (expectedAttemptId : String) (update : Exchange → Exchange) :
    OnlyAsks runtime config answers tenantName
      (saveExchangeWithCAS accepted stored expectedAttemptId update) := by
  unfold saveExchangeWithCAS
  split
  · exact .value _
  · unfold writeChecked
    split
    · exact .bind (.of_silent rfl) fun _ _ => .value _
    · exact .fail _

theorem processVerifyTask_asks (stored : Option Exchange) :
    OnlyAsks runtime config answers tenantName
      (processVerifyTask runtime config answers stored) := by
  unfold processVerifyTask
  split
  · exact .value _
  · rename_i plan planned
    rcases (planWorker_eq_ok runtime config answers).mp planned with
      ⟨exchange, task, -, -, -, rfl⟩
    apply Action.CallsOnly.bind (saveExchangeWithCAS_asks ..)
    intro marked _
    apply Action.CallsOnly.bind
    · constructor
      intro call made
      change call ∈ (planFor runtime config answers exchange task).calls at made
      unfold planFor at made
      split at made
      · cases made
      · rename_i base _
        have pass := @openBadgesPass_asks runtime config answers tenantName exchange 0 base
          task.openBadgesCredentialIndices
        dsimp only at made
        split at made <;> exact pass.made call made
    · intro _ _
      exact .bind (saveExchangeWithCAS_asks ..) fun _ _ => .value _

/-! ## Handlers that enqueue -/

variable {runtime config answers} {loaded : Exchange}

theorem OnlyAsks.makes {α : Type} {action : Handler α}
    (only : OnlyAsks runtime config answers (issuingTenant loaded) action) :
    OnlyMakes runtime config answers loaded action :=
  only.mono fun _ asked => .asks asked

variable (runtime) in
theorem sweepIfTimedOut_makes (stored : Option Exchange) :
    OnlyMakes runtime config answers loaded
      (sweepIfTimedOut config answers loaded stored) := by
  unfold sweepIfTimedOut
  split
  · exact .value _
  · apply Action.CallsOnly.bind (OnlyAsks.makes (saveExchangeWithCAS_asks ..))
    intro result _
    split
    · dsimp only
      split
      · exact .bind (.perform _ .enqueues) fun _ _ => .value _
      · exact .value _
    · exact .after fun _ _ => .value _

theorem participateInVerifyExchange_makes {data : Json} {working : ExchangeDetailVerify}
    (sameId : working.exchangeId = loaded.exchangeId) :
    OnlyMakes runtime config answers loaded
      (participateInVerifyExchange runtime config answers data working) := by
  unfold participateInVerifyExchange
  apply Action.CallsOnly.after
  intro prepared _
  apply Action.CallsOnly.bind (.perform _ (.asks (.verifyPresentation _)))
  intro result _
  dsimp only
  split
  · apply Action.CallsOnly.after
    intro finalized _
    exact .bind (OnlyAsks.makes (save_asks ..)) fun _ _ => .value _
  · apply Action.CallsOnly.after
    intro intermediate applied
    rcases withSyncResults_ok config answers applied with ⟨finalized, finished, rfl⟩
    rcases applyVerificationResults_ok finished with ⟨results, -, -, -, -, -, rfl⟩
    apply Action.CallsOnly.bind (OnlyAsks.makes (save_asks ..))
    intro _ _
    dsimp only [withVerifyTask]
    rw [sameId]
    exact .bind (.perform _ .enqueues) fun _ _ => .value _

theorem participateInExchange_makes (data : Json) :
    OnlyMakes runtime config answers loaded
      (participateInExchange runtime config answers data loaded) := by
  unfold participateInExchange
  split
  · exact .fail _
  · split
    · exact OnlyAsks.makes (participateWithEmptyBody_asks ..)
    · cases loaded with
      | didAuth detail => exact OnlyAsks.makes (participateInDidAuthExchange_asks ..)
      | claim detail => exact OnlyAsks.makes (participateInClaimExchange_asks ..)
      | verify detail => exact participateInVerifyExchange_makes rfl

private theorem oid4vpResponseRoute_makes {body : Option Json} {exchange : ExchangeDetailVerify} :
    OnlyMakes runtime config answers (.verify exchange)
      (oid4vpResponseRoute runtime config answers body exchange) := by
  unfold oid4vpResponseRoute
  split
  · exact .value _
  · unfold handleOid4vpResponse
    split
    · exact .value _
    · rename_i presentation working accepted
      rcases acceptDirectPost_ok runtime accepted with ⟨posted, parsed, -, -, consumed, -, -⟩
      rcases consumeOid4vpResponse_ok consumed with ⟨state, -, -, -, rfl⟩
      apply Action.CallsOnly.recover
      exact .bind (participateInVerifyExchange_makes rfl) fun _ _ => .value _

/-! ## Every endpoint -/

theorem serve_makes {workflowId : String} {endpoint : Endpoint} :
    OnlyMakes runtime config answers loaded
      (serve runtime config answers workflowId endpoint (some loaded)) := by
  have found : ∀ {route : Exchange → Handler Response} {workflow : String},
      OnlyMakes runtime config answers loaded (route loaded) →
      OnlyMakes runtime config answers loaded
        (Action.ofExcept (getExchangeData (some loaded) workflow) >>= route) := by
    intro route workflow only
    apply Action.CallsOnly.after
    intro exchange loads
    cases getExchangeData_ok loads
    exact only
  have onClaims : ∀ {message : String} {route : ExchangeDetailClaim → Handler Response},
      (∀ detail, OnlyAsks runtime config answers (some detail.tenantName) (route detail)) →
      OnlyMakes runtime config answers loaded (onClaim message route loaded) := by
    intro message route only
    cases loaded with
    | claim detail => exact OnlyAsks.makes (only detail)
    | didAuth detail => exact .fail _
    | verify detail => exact .fail _
  have onVerifications : ∀ {message : String}
      {route : ExchangeDetailVerify → Handler Response},
      (∀ detail, OnlyMakes runtime config answers (.verify detail) (route detail)) →
      OnlyMakes runtime config answers loaded (onVerify message route loaded) := by
    intro message route only
    cases loaded with
    | verify detail => exact only detail
    | didAuth detail => exact .fail _
    | claim detail => exact .fail _
  cases endpoint with
  | participate data =>
      apply Action.CallsOnly.after
      intro _ _
      exact found (.map (participateInExchange_makes data) json)
  | legacyParticipate => exact found (.map (participateInExchange_makes .null) json)
  | exchangeDetail authorization exchangeToken =>
      apply Action.CallsOnly.after
      intro tenant _
      apply Action.CallsOnly.after
      intro _ _
      apply found
      apply Action.CallsOnly.after
      intro _ _
      exact .bind (sweepIfTimedOut_makes runtime _) fun _ _ => .value _
  | protocols =>
      apply Action.CallsOnly.recover
      apply found
      apply Action.CallsOnly.bind (sweepIfTimedOut_makes runtime _)
      intro exchange _
      exact .after fun _ _ => .value _
  | interaction =>
      apply Action.CallsOnly.after
      intro exchange loads
      cases getExchangeDataById_ok loads
      apply Action.CallsOnly.bind (sweepIfTimedOut_makes runtime _)
      intro swept _
      exact .after fun _ _ => .value _
  | credentialOffer => exact found (onClaims fun _ => credentialOfferRoute_asks ..)
  | token body => exact found (onClaims fun _ => tokenRoute_asks ..)
  | nonce => exact found (onClaims fun _ => nonceRoute_asks ..)
  | credential authorization body => exact found (onClaims fun _ => credentialRoute_asks ..)
  | authorizationRequest =>
      exact found (onVerifications fun _ => OnlyAsks.makes (oid4vpRequestRoute_asks ..))
  | directPost body => exact found (onVerifications fun _ => oid4vpResponseRoute_makes)

end

end TransactionService.ServiceCalls
