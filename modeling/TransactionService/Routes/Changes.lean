import TransactionService.Routes

namespace TransactionService

/-! # What a request changes -/

section

variable (runtime : Runtime) (config : Config) (answers : Answers)

/-- All the ways in which serving a request turns a stored exchange into
another. -/
inductive Change : Endpoint → Exchange → Exchange → Prop
  | activated {endpoint : Endpoint} {exchange : Exchange}
      (pending : exchange.state = .pending) :
      Change endpoint exchange (exchange.withState .active)
  | authenticated {data : Json} {detail : ExchangeDetailDidAuth} (holder : String)
      (compatLog : Option (List CheckResult)) (ongoing : detail.state ≠ .complete) :
      Change (.participate data) (.didAuth detail)
        (.didAuth (didAuthCompleted detail holder compatLog))
  | claimed {data : Json} {detail : ExchangeDetailClaim} (signedCredential : Json)
      (compatLog : Option (List CheckResult)) (ongoing : detail.state ≠ .complete) :
      Change (.participate data) (.claim detail)
        (.claim (claimCompleted detail signedCredential compatLog))
  | submitted {data : Json} {detail : ExchangeDetailVerify} {stored : Exchange}
      (ongoing : detail.state ≠ .complete) (nonempty : isEmptyBody data = false)
      (stores : SubmissionStores runtime config answers data detail stored) :
      Change (.participate data) (.verify detail) stored
  | swept {endpoint : Endpoint} {exchange : Exchange} {plan : SweepPlan}
      (planned : planSweep config answers exchange = some plan) :
      Change endpoint exchange (.verify plan.next)
  | offered {detail : ExchangeDetailClaim} :
      Change .credentialOffer (.claim detail)
        (.claim (ensurePreAuthorizedCode answers detail (codeTtlSec answers detail)).1)
  | redeemed {body response : Json} {detail updated : ExchangeDetailClaim}
      (handled : handleTokenRequest answers body detail = .ok (updated, response)) :
      Change (.token body) (.claim detail) (.claim updated)
  | minted {detail : ExchangeDetailClaim} :
      Change .nonce (.claim detail) (.claim (handleNonceRequest answers detail))
  | issued {authorization : Option String} {body : Option Json}
      {detail : ExchangeDetailClaim} (signedCredential : Json)
      (compatLog : Option (List CheckResult)) (ongoing : detail.state ≠ .complete) :
      Change (.credential authorization body) (.claim detail) (.claim (claimCompleted
        (withOid4vci detail { oid4vciState detail with nonceUsed := some true })
        signedCredential compatLog))
  | requested {detail : ExchangeDetailVerify} :
      Change .authorizationRequest (.verify detail)
        (.verify (ensureOid4vpState answers detail).1)
  | answered {body : Option Json} {presentation : Json}
      {detail working : ExchangeDetailVerify} {stored : Exchange}
      (ongoing : detail.state ≠ .complete)
      (accepted : acceptDirectPost runtime body detail = .ok (presentation, working))
      (stores : SubmissionStores runtime config answers presentation working stored) :
      Change (.directPost body) (.verify detail) stored

variable {runtime config answers} {exchange record : Exchange}

theorem Change.complete_kept {endpoint : Endpoint} {before after : Exchange}
    (change : Change runtime config answers endpoint before after)
    (complete : before.state = .complete) :
    after.state = .complete ∧ after.results = before.results := by
  cases change with
  | activated pending => cases complete.symm.trans pending
  | authenticated holder compatLog ongoing => exact absurd complete ongoing
  | claimed signedCredential compatLog ongoing => exact absurd complete ongoing
  | submitted ongoing nonempty stores => exact absurd complete ongoing
  | swept planned =>
      rcases planSweep_eq_some config answers planned with ⟨exchange, task, rfl, active, -⟩
      cases complete.symm.trans active
  | offered =>
      rename_i detail
      rcases ensurePreAuthorizedCode_cases answers detail (codeTtlSec answers detail) with
        same | ⟨fresh, same⟩ <;> rw [same] <;> exact ⟨complete, rfl⟩
  | redeemed handled =>
      rcases handleTokenRequest_ok answers handled with ⟨_, _, -, accepted, rfl⟩
      rw [(redeemPreAuthorizedCode_ok accepted).2.2]
      exact ⟨complete, rfl⟩
  | minted => exact ⟨complete, rfl⟩
  | issued signedCredential compatLog ongoing => exact absurd complete ongoing
  | requested =>
      rename_i detail
      rcases ensureOid4vpState_cases answers detail with same | ⟨fresh, same⟩ <;>
        rw [same] <;> exact ⟨complete, rfl⟩
  | answered ongoing accepted stores => exact absurd complete ongoing

/-! ## One endpoint at a time -/

theorem participateWithEmptyBody_saved
    (writes : (participateWithEmptyBody answers exchange).saved = some record) :
    exchange.state = .pending ∧ record = exchange.withState .active := by
  unfold participateWithEmptyBody at writes
  by_cases pending : exchange.state = .pending
  · refine ⟨pending, ?_⟩
    simp only [if_pos pending] at writes
    rcases Action.saved_bind writes with written | ⟨_, -, nothing⟩
    · exact saveExchange_saved written
    · cases nothing
  · simp only [if_neg pending] at writes
    cases writes

theorem participateInExchange_saved {data : Json}
    (writes : (participateInExchange runtime config answers data exchange).saved =
      some record) :
    Change runtime config answers (.participate data) exchange record := by
  unfold participateInExchange at writes
  split at writes
  · cases writes
  · rename_i ongoing
    split at writes
    · rcases participateWithEmptyBody_saved writes with ⟨pending, rfl⟩
      exact .activated pending
    · rename_i nonempty
      split at writes
      · rcases participateInDidAuthExchange_saved runtime config answers writes with
          ⟨holder, compatLog, rfl⟩
        exact .authenticated holder compatLog ongoing
      · rcases participateInClaimExchange_saved runtime config answers writes with
          ⟨signedCredential, compatLog, rfl⟩
        exact .claimed signedCredential compatLog ongoing
      · exact .submitted ongoing (by simpa using nonempty)
          (participateInVerifyExchange_saved runtime config answers writes)

theorem getExchangeData_ok {stored : Option Exchange} {workflowId : String}
    (loads : getExchangeData stored workflowId = .ok exchange) : stored = some exchange := by
  unfold getExchangeData at loads
  split at loads
  · cases loads
  · split at loads
    · cases loads
    · cases loads
      rfl

theorem getExchangeData_workflowId {stored : Option Exchange} {workflowId : String}
    (loads : getExchangeData stored workflowId = .ok exchange) :
    exchange.workflowId.text = workflowId := by
  unfold getExchangeData at loads
  split at loads
  · cases loads
  · split at loads
    · cases loads
    · rename_i addressed
      cases loads
      exact Decidable.not_not.mp addressed

theorem getExchangeDataById_ok {stored : Option Exchange}
    (loads : getExchangeDataById stored = .ok exchange) : stored = some exchange := by
  unfold getExchangeDataById at loads
  split at loads
  · cases loads
  · cases loads
    rfl

/-! ### Reads that sweep -/

def Swept (config : Config) (answers : Answers) (stored : Option Exchange)
    (record : Exchange) : Prop :=
  ∃ exchange plan, stored = some exchange ∧
    planSweep config answers exchange = some plan ∧ record = .verify plan.next

theorem sweepThen_saved {α : Type} {stored : Option Exchange}
    {answer : Exchange → Handler α} (silent : ∀ swept, (answer swept).saved = none)
    (loads : stored = some exchange)
    (writes : (sweepIfTimedOut config answers exchange stored >>= answer).saved =
      some record) : Swept config answers stored record := by
  rcases Action.saved_bind writes with sweeps | ⟨swept, -, nothing⟩
  · rcases sweepIfTimedOut_saved config answers sweeps with ⟨plan, planned, same⟩
    exact ⟨exchange, plan, loads, planned, same⟩
  · rw [silent] at nothing
    cases nothing

theorem exchangeDetailRoute_saved {authorization : Option String} {exchangeToken : Bool}
    {workflowId : String} {stored : Option Exchange}
    (writes : (exchangeDetailRoute runtime config answers authorization exchangeToken
      workflowId stored).saved = some record) : Swept config answers stored record := by
  unfold exchangeDetailRoute at writes
  rcases Action.saved_bind_of_none rfl writes with ⟨tenant, -, afterTenant⟩
  rcases Action.saved_bind_of_none rfl afterTenant with ⟨_, -, afterWorkflow⟩
  rcases Action.saved_bind_of_none rfl afterWorkflow with ⟨loaded, loads, afterLoad⟩
  rcases Action.saved_bind_of_none rfl afterLoad with ⟨_, -, sweeps⟩
  exact sweepThen_saved (fun _ => rfl) (getExchangeData_ok loads) sweeps

theorem protocolsRoute_saved {workflowId : String} {stored : Option Exchange}
    (writes : (protocolsRoute runtime config answers workflowId stored).saved = some record) :
    Swept config answers stored record := by
  unfold protocolsRoute at writes
  rw [Action.recover_saved] at writes
  rcases Action.saved_bind_of_none rfl writes with ⟨loaded, loads, sweeps⟩
  exact sweepThen_saved (fun _ => Action.saved_bind_eq_none rfl fun _ => rfl)
    (getExchangeData_ok loads) sweeps

theorem interactionRoute_saved {stored : Option Exchange}
    (writes : (interactionRoute runtime config answers stored).saved = some record) :
    Swept config answers stored record := by
  unfold interactionRoute at writes
  rcases Action.saved_bind_of_none rfl writes with ⟨loaded, loads, sweeps⟩
  exact sweepThen_saved (fun _ => Action.saved_bind_eq_none rfl fun _ => rfl)
    (getExchangeDataById_ok loads) sweeps

/-- The endpoints that read an exchange, and write only what its sweep writes. -/
def Endpoint.sweeps : Endpoint → Bool
  | .exchangeDetail _ _ => true
  | .protocols => true
  | .interaction => true
  | _ => false

theorem serve_swept {workflowId : String} {endpoint : Endpoint} {stored : Option Exchange}
    (sweeps : endpoint.sweeps = true)
    (writes : (serve runtime config answers workflowId endpoint stored).saved =
      some record) : Swept config answers stored record := by
  cases endpoint with
  | exchangeDetail authorization exchangeToken => exact exchangeDetailRoute_saved writes
  | protocols => exact protocolsRoute_saved writes
  | interaction => exact interactionRoute_saved writes
  | _ => cases sweeps

/-! ### The other routes -/

theorem credentialOfferRoute_saved {detail : ExchangeDetailClaim}
    (writes : (credentialOfferRoute runtime answers detail).saved = some record) :
    Change runtime config answers .credentialOffer (.claim detail) record := by
  unfold credentialOfferRoute at writes
  dsimp only at writes
  split at writes
  · rcases Action.saved_bind writes with written | ⟨_, -, later⟩
    · rw [saveExchange_saved written]
      exact .offered
    · rcases Action.saved_bind later with nothing | ⟨_, -, nothing⟩ <;> cases nothing
  · rcases Action.saved_bind writes with nothing | ⟨_, -, nothing⟩ <;> cases nothing

theorem oid4vpRequestRoute_saved {detail : ExchangeDetailVerify}
    (writes : (oid4vpRequestRoute runtime answers detail).saved = some record) :
    Change runtime config answers .authorizationRequest (.verify detail) record := by
  unfold oid4vpRequestRoute at writes
  dsimp only at writes
  split at writes
  · rcases Action.saved_bind writes with written | ⟨_, -, later⟩
    · rw [saveExchange_saved written]
      exact .requested
    · rcases Action.saved_bind later with nothing | ⟨_, -, nothing⟩ <;> cases nothing
  · rcases Action.saved_bind writes with nothing | ⟨_, -, nothing⟩ <;> cases nothing

theorem tokenRoute_saved {body : Json} {detail : ExchangeDetailClaim}
    (writes : (tokenRoute answers body detail).saved = some record) :
    Change runtime config answers (.token body) (.claim detail) record := by
  unfold tokenRoute at writes
  split at writes
  · cases writes
  · rename_i updated response handled
    rcases Action.saved_bind writes with written | ⟨_, -, nothing⟩
    · rw [saveExchange_saved written]
      exact .redeemed handled
    · cases nothing

theorem nonceRoute_saved {detail : ExchangeDetailClaim}
    (writes : (nonceRoute answers detail).saved = some record) :
    Change runtime config answers .nonce (.claim detail) record := by
  unfold nonceRoute at writes
  rcases Action.saved_bind writes with written | ⟨_, -, nothing⟩
  · rw [saveExchange_saved written]
    exact .minted
  · cases nothing

theorem oid4vpResponseRoute_saved {body : Option Json} {detail : ExchangeDetailVerify}
    (writes : (oid4vpResponseRoute runtime config answers body detail).saved =
      some record) :
    Change runtime config answers (.directPost body) (.verify detail) record := by
  unfold oid4vpResponseRoute at writes
  split at writes
  · cases writes
  · rename_i ongoing
    unfold handleOid4vpResponse at writes
    split at writes
    · cases writes
    · rename_i presentation working accepted
      rw [Action.recover_saved] at writes
      rcases Action.saved_bind writes with written | ⟨_, -, nothing⟩
      · exact .answered ongoing accepted
          (participateInVerifyExchange_saved runtime config answers written)
      · cases nothing

/-! ## Routes of one workflow -/

section

variable {workflowId message : String} {snapshot : Exchange} {response : Response}

theorem onClaim_answers {route : ExchangeDetailClaim → Handler Response}
    (answered : (Action.ofExcept (getExchangeData (some snapshot) workflowId) >>=
      onClaim message route).result = .ok response) :
    ∃ detail, snapshot = .claim detail ∧ (route detail).result = .ok response ∧
      (Action.ofExcept (getExchangeData (some snapshot) workflowId) >>=
        onClaim message route).saved = (route detail).saved := by
  rcases Action.result_bind answered with ⟨exchange, loads, routed⟩
  have found : some snapshot = some exchange := getExchangeData_ok loads
  cases found
  cases snapshot with
  | claim detail =>
      refine ⟨detail, rfl, routed, ?_⟩
      rw [Action.bind_ok loads]
      exact Option.or_none
  | _ => cases routed

theorem onVerify_answers {route : ExchangeDetailVerify → Handler Response}
    (answered : (Action.ofExcept (getExchangeData (some snapshot) workflowId) >>=
      onVerify message route).result = .ok response) :
    ∃ detail, snapshot = .verify detail ∧ (route detail).result = .ok response ∧
      (Action.ofExcept (getExchangeData (some snapshot) workflowId) >>=
        onVerify message route).saved = (route detail).saved := by
  rcases Action.result_bind answered with ⟨exchange, loads, routed⟩
  have found : some snapshot = some exchange := getExchangeData_ok loads
  cases found
  cases snapshot with
  | verify detail =>
      refine ⟨detail, rfl, routed, ?_⟩
      rw [Action.bind_ok loads]
      exact Option.or_none
  | _ => cases routed

theorem loaded_writes {route : Exchange → Handler Response}
    (writes : (Action.ofExcept (getExchangeData (some snapshot) workflowId) >>=
      route).saved = some record) :
    (route snapshot).saved = some record ∧
      (Action.ofExcept (getExchangeData (some snapshot) workflowId) >>= route).result =
        (route snapshot).result := by
  rcases Action.saved_bind_of_none rfl writes with ⟨exchange, loads, routed⟩
  have found : some snapshot = some exchange := getExchangeData_ok loads
  cases found
  refine ⟨routed, ?_⟩
  rw [Action.bind_ok loads]

end

/-! ## Every endpoint -/

theorem onClaim_saved {endpoint : Endpoint} {message : String}
    {route : ExchangeDetailClaim → Handler Response}
    (changes : ∀ detail, (route detail).saved = some record →
      Change runtime config answers endpoint (.claim detail) record)
    (writes : (onClaim message route exchange).saved = some record) :
    Change runtime config answers endpoint exchange record := by
  cases exchange with
  | claim detail => exact changes detail writes
  | didAuth detail => cases writes
  | verify detail => cases writes

theorem onVerify_saved {endpoint : Endpoint} {message : String}
    {route : ExchangeDetailVerify → Handler Response}
    (changes : ∀ detail, (route detail).saved = some record →
      Change runtime config answers endpoint (.verify detail) record)
    (writes : (onVerify message route exchange).saved = some record) :
    Change runtime config answers endpoint exchange record := by
  cases exchange with
  | verify detail => exact changes detail writes
  | didAuth detail => cases writes
  | claim detail => cases writes

theorem serve_saved {workflowId : String} {endpoint : Endpoint} {stored : Option Exchange}
    (writes : (serve runtime config answers workflowId endpoint stored).saved =
      some record) :
    ∃ exchange, stored = some exchange ∧
      Change runtime config answers endpoint exchange record := by
  have loaded : ∀ {route : Exchange → Handler Response},
      (∀ exchange, (route exchange).saved = some record →
        Change runtime config answers endpoint exchange record) →
      (Action.ofExcept (getExchangeData stored workflowId) >>= route).saved = some record →
      ∃ exchange, stored = some exchange ∧
        Change runtime config answers endpoint exchange record := by
    intro route changes routed
    rcases Action.saved_bind_of_none rfl routed with ⟨exchange, loads, later⟩
    exact ⟨exchange, getExchangeData_ok loads, changes exchange later⟩
  have read : endpoint.sweeps = true → ∃ exchange, stored = some exchange ∧
      Change runtime config answers endpoint exchange record := by
    intro sweeps
    rcases serve_swept sweeps writes with ⟨exchange, plan, found, planned, rfl⟩
    exact ⟨exchange, found, .swept planned⟩
  cases endpoint with
  | participate data =>
      rcases Action.saved_bind_of_none rfl writes with ⟨_, -, afterWorkflow⟩
      apply loaded ?_ afterWorkflow
      intro exchange participates
      rw [Action.saved_map] at participates
      exact participateInExchange_saved participates
  | legacyParticipate =>
      rcases Action.saved_bind_of_none rfl writes with ⟨exchange, loads, participates⟩
      refine ⟨exchange, getExchangeData_ok loads, ?_⟩
      rw [Action.saved_map] at participates
      unfold participateInExchange at participates
      split at participates
      · cases participates
      · rcases participateWithEmptyBody_saved participates with ⟨pending, rfl⟩
        exact .activated pending
  | exchangeDetail authorization exchangeToken => exact read rfl
  | protocols => exact read rfl
  | interaction => exact read rfl
  | credentialOffer =>
      exact loaded (fun exchange => onClaim_saved fun detail => credentialOfferRoute_saved)
        writes
  | token body =>
      exact loaded (fun exchange => onClaim_saved fun detail => tokenRoute_saved) writes
  | nonce =>
      exact loaded (fun exchange => onClaim_saved fun detail => nonceRoute_saved) writes
  | credential authorization body =>
      apply loaded ?_ writes
      intro exchange issues
      apply onClaim_saved ?_ issues
      intro detail written
      rcases credentialRoute_saved runtime config answers written with
        ⟨ongoing, signedCredential, compatLog, rfl⟩
      exact .issued signedCredential compatLog ongoing
  | authorizationRequest =>
      exact loaded (fun exchange => onVerify_saved fun detail => oid4vpRequestRoute_saved)
        writes
  | directPost body =>
      exact loaded (fun exchange => onVerify_saved fun detail => oid4vpResponseRoute_saved)
        writes

def Endpoint.takesPresentation : Endpoint → Bool
  | .participate _ => true
  | .directPost _ => true
  | _ => false

theorem serve_saved_workflowId {workflowId : String} {endpoint : Endpoint}
    (takes : endpoint.takesPresentation = true)
    (writes : (serve runtime config answers workflowId endpoint (some exchange)).saved =
      some record) :
    exchange.workflowId.text = workflowId := by
  have found : ∀ {loaded : Exchange},
      getExchangeData (some exchange) workflowId = .ok loaded →
      exchange.workflowId.text = workflowId := by
    intro loaded loads
    cases getExchangeData_ok loads
    exact getExchangeData_workflowId loads
  cases endpoint with
  | participate data =>
      rcases Action.saved_bind_of_none rfl writes with ⟨_, -, afterWorkflow⟩
      rcases Action.saved_bind_of_none rfl afterWorkflow with ⟨loaded, loads, -⟩
      exact found loads
  | directPost body =>
      rcases Action.saved_bind_of_none rfl writes with ⟨loaded, loads, -⟩
      exact found loads
  | _ => cases takes

end

end TransactionService
