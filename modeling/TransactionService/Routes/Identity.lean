import TransactionService.Routes.Changes

namespace TransactionService

/-! # What an exchange is

The parts of a record that are given when the exchange is created. -/

/-- The variables without the results and the state of the verify task, of
OID4VCI and of OID4VP. -/
inductive FixedVariables
  | didAuth (vars : DidAuthVariables)
  | claim (vars : ClaimVariables)
  | verify (vars : VerifyVariables)

def fixedVariables : Exchange → FixedVariables
  | .didAuth detail => .didAuth { detail.vars with results := none }
  | .claim detail => .claim { detail.vars with results := none, oid4vci := none }
  | .verify detail => .verify { detail.vars with
      results := none, verifyTask := none, oid4vp := none }

structure Identity where
  exchangeId : String
  workflowId : WorkflowId
  tenantName : String
  expires : Timestamp
  vars : FixedVariables

def identityOf (exchange : Exchange) : Identity where
  exchangeId := exchange.exchangeId
  workflowId := exchange.workflowId
  tenantName := exchange.tenantName
  expires := exchange.expires
  vars := fixedVariables exchange

variable {runtime : Runtime} {config : Config} {answers : Answers}

@[simp] theorem identityOf_withState (exchange : Exchange) (state : ExchangeState) :
    identityOf (exchange.withState state) = identityOf exchange := by
  cases exchange <;> rfl

@[simp] theorem identityOf_withVerifyTask (exchange : ExchangeDetailVerify)
    (task : VerifyTask) :
    identityOf (.verify (withVerifyTask exchange task)) = identityOf (.verify exchange) :=
  rfl

@[simp] theorem identityOf_withOid4vci (exchange : ExchangeDetailClaim)
    (state : ExchangeOid4vciState) :
    identityOf (.claim (withOid4vci exchange state)) = identityOf (.claim exchange) :=
  rfl

@[simp] theorem identityOf_withOid4vp (exchange : ExchangeDetailVerify)
    (state : ExchangeOid4vpState) :
    identityOf (.verify (withOid4vp exchange state)) = identityOf (.verify exchange) :=
  rfl

theorem SubmissionStores.identity {data : Json} {exchange : ExchangeDetailVerify}
    {stored : Exchange}
    (stores : SubmissionStores runtime config answers data exchange stored) :
    identityOf stored = identityOf (.verify exchange) := by
  rcases stores.overwrites with ⟨_, _, _, rfl⟩
  rfl

theorem planSweep_identity {loaded : Exchange} {plan : SweepPlan}
    (planned : planSweep config answers loaded = some plan) :
    identityOf (.verify plan.next) = identityOf loaded := by
  rcases planSweep_eq_some config answers planned with
    ⟨exchange, task, rfl, -, -, -, -, ⟨-, rfl⟩ | ⟨-, rfl⟩⟩
  · rfl
  · rfl

theorem Change.identity {endpoint : Endpoint} {before after : Exchange}
    (change : Change runtime config answers endpoint before after) :
    identityOf after = identityOf before := by
  cases change with
  | activated pending => exact identityOf_withState before .active
  | authenticated holder compatLog ongoing => rfl
  | claimed signedCredential compatLog ongoing => rfl
  | submitted ongoing nonempty stores => exact stores.identity
  | swept planned => exact planSweep_identity planned
  | offered =>
      rename_i detail
      rcases ensurePreAuthorizedCode_cases answers detail (codeTtlSec answers detail) with
        same | ⟨fresh, same⟩
      · rw [same]
      · rw [same]
        exact identityOf_withOid4vci detail fresh
  | redeemed handled =>
      rcases handleTokenRequest_ok answers handled with ⟨_, _, -, accepted, rfl⟩
      rw [(redeemPreAuthorizedCode_ok accepted).2.2]
      rfl
  | minted => rfl
  | issued signedCredential compatLog ongoing => rfl
  | requested =>
      rename_i detail
      rcases ensureOid4vpState_cases answers detail with same | ⟨fresh, same⟩
      · rw [same]
      · rw [same]
        exact identityOf_withOid4vp detail fresh
  | answered ongoing accepted stores =>
      rcases acceptDirectPost_ok runtime accepted with ⟨_, _, -, -, consumed, -, -⟩
      rcases consumeOid4vpResponse_ok consumed with ⟨_, -, -, -, rfl⟩
      exact stores.identity

theorem WorkerStores.identity {exchange : ExchangeDetailVerify} {task : VerifyTask}
    {after : Exchange}
    (stores : WorkerStores runtime config answers exchange task after) :
    identityOf after = identityOf (.verify exchange) := by
  cases stores <;> rfl

end TransactionService
