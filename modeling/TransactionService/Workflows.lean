import TransactionService.Service

namespace TransactionService

/-! # The workflow table and the creation of exchanges -/

structure Workflow where
  id : WorkflowId
  credentialTemplates : Option (List String) := none

def didAuthWorkflow : Workflow where
  id := .didAuth

def claimWorkflow : Workflow where
  id := .claim
  credentialTemplates := some ["\x7b\x7b\x7bvc\x7d\x7d\x7d"]

def verifyCredentialWorkflow : Workflow where
  id := .verify

def getWorkflow : WorkflowId → Workflow
  | .didAuth => didAuthWorkflow
  | .claim => claimWorkflow
  | .verify => verifyCredentialWorkflow

def WorkflowId.ofText? (text : String) : Option WorkflowId :=
  if text = "didAuth" then some .didAuth
  else if text = "claim" then some .claim
  else if text = "verify" then some .verify
  else none

theorem WorkflowId.ofText?_text (workflowId : WorkflowId) :
    WorkflowId.ofText? workflowId.text = some workflowId := by
  cases workflowId <;> rfl

theorem WorkflowId.ofText?_eq_some {text : String} {workflowId : WorkflowId} :
    WorkflowId.ofText? text = some workflowId ↔ workflowId.text = text := by
  constructor
  · intro named
    unfold WorkflowId.ofText? at named
    split at named
    · rename_i same
      cases named
      exact same.symm
    · split at named
      · rename_i same
        cases named
        exact same.symm
      · split at named
        · rename_i same
          cases named
          exact same.symm
        · cases named
  · rintro rfl
    exact WorkflowId.ofText?_text workflowId

/-! ## URLs -/

/-- `${exchangeHost}/workflows/${workflowId}/exchanges/${exchangeId}`. -/
def exchangeUrl (exchange : Exchange) : String :=
  exchange.baseVariables.exchangeHost ++ "/workflows/" ++ exchange.workflowId.text ++
    "/exchanges/" ++ exchange.exchangeId

/-! ## Creation

The data comes out of the workflow's schema, which keeps only the members it
declares. -/

structure ExchangeCreateData where
  expires : Option Timestamp := none
  exchangeHost : String
  tenantName : Option String := none
  batchId : Option String := none
  retrievalId : Option String := none
  metadata : Option Json := none
  debug : Option Bool := none
  options : Option VerifierOptions := none
  others : List (String × Json) := []

structure ClaimCreateData extends ExchangeCreateData where
  subjectData : Option Json := none
  vc : String

structure VerifyCreateData extends ExchangeCreateData where
  vprContext : List String
  vprCredentialType : List String
  trustedIssuers : Option (List String) := none
  trustedRegistries : Option (List String) := none
  vprClaims : List (Option DcqlClaim)

section

variable (config : Config) (answers : Answers)

def variablesFeaturesFromConfig : Json :=
  .obj [("details", .bool config.uiShowDetails)]

/-- `{ ...data.variables, challenge, features }`. -/
def createdVariables (data : ExchangeCreateData) : BaseVariables where
  retrievalId := data.retrievalId
  exchangeHost := data.exchangeHost
  metadata := data.metadata
  challenge := answers.randomUUID 1
  features := some (variablesFeaturesFromConfig config)
  debug := data.debug
  options := data.options
  tenantName := data.tenantName
  batchId := data.batchId
  others := data.others

def createdExchange (data : ExchangeCreateData) (vars : Variables) :
    ExchangeDetail Variables where
  tenantName := data.tenantName.getD config.defaultTenantName
  exchangeId := answers.randomUUID 0
  expires := data.expires.getD (answers.clock 0 + config.exchangeTtl * 1000)
  state := .pending
  vars := vars

def createExchangeDidAuth (data : ExchangeCreateData) : ExchangeDetailDidAuth :=
  createdExchange config answers data {
    toBaseVariables := createdVariables config answers data }

def createExchangeClaim (data : ClaimCreateData) : ExchangeDetailClaim :=
  createdExchange config answers data.toExchangeCreateData {
    toBaseVariables := createdVariables config answers data.toExchangeCreateData
    vc := data.vc
    subjectData := data.subjectData }

def createExchangeVerify (data : VerifyCreateData) : ExchangeDetailVerify :=
  createdExchange config answers data.toExchangeCreateData {
    toBaseVariables := createdVariables config answers data.toExchangeCreateData
    vprContext := data.vprContext
    vprCredentialType := data.vprCredentialType
    trustedIssuers := data.trustedIssuers.getD []
    trustedRegistries := some (data.trustedRegistries.getD [])
    vprClaims := data.vprClaims.filterMap id }

inductive CreateData
  | didAuth (data : ExchangeCreateData)
  | claim (data : ClaimCreateData)
  | verify (data : VerifyCreateData)

def createExchange : CreateData → Exchange
  | .didAuth data => .didAuth (createExchangeDidAuth config answers data)
  | .claim data => .claim (createExchangeClaim config answers data)
  | .verify data => .verify (createExchangeVerify config answers data)

@[simp] theorem createExchange_state (data : CreateData) :
    (createExchange config answers data).state = .pending := by
  cases data <;> rfl

@[simp] theorem createExchange_exchangeId (data : CreateData) :
    (createExchange config answers data).exchangeId = answers.randomUUID 0 := by
  cases data <;> rfl

@[simp] theorem createExchange_verifyTask (data : CreateData) :
    (createExchange config answers data).verifyTask = none := by
  cases data <;> rfl

end

end TransactionService
