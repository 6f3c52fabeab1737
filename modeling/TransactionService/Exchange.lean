import TransactionService.Foundation.Json

namespace TransactionService

/-! # Exchange records

The records the service stores, field by field as `app.d.ts` and the schemas
declare them. -/

/-- A point in time in milliseconds. Stored ISO 8601 texts are represented by
the instant they denote. -/
abbrev Timestamp := Int

inductive WorkflowId
  | didAuth
  | claim
  | verify
deriving DecidableEq, Repr

def WorkflowId.text : WorkflowId → String
  | .didAuth => "didAuth"
  | .claim => "claim"
  | .verify => "verify"

inductive ExchangeState
  | pending
  | active
  | complete
  | invalid
deriving DecidableEq, Repr

/-! ## Check results -/

structure ProblemDetail where
  type : String
  title : String
  detail : String
  status : Option Nat := none

inductive CheckOutcome
  | success (message : String) (payload : Option Json)
      (foundInRegistries : Option (List String))
  | failure (problems : List ProblemDetail)
  | skipped (reason : String)

def CheckOutcome.isFailure : CheckOutcome → Bool
  | .failure _ => true
  | _ => false

/-- A check as verifier-core reports it: `id` is optional there. -/
structure CoreCheckResult where
  id : Option String := none
  suite : Option String := none
  check : Option String := none
  outcome : CheckOutcome
  fatal : Option Bool := none
  timing : Option Json := none

structure CheckResult where
  id : String
  outcome : CheckOutcome
  fatal : Option Bool := none
  timing : Option Json := none

structure SuiteSummary where
  id : String
  status : String
  detail : Option Json := none

structure CredentialVerificationResult (Check : Type) where
  verified : Bool
  verifiableCredential : Option Json
  results : List Check
  summary : List SuiteSummary := []
  recognizedProfile : Option String := none
  normalizedVerifiableCredential : Option Json := none
  timing : Option Json := none
  isPartial : Option Bool := none

structure PresentationVerificationResult where
  verified : Bool
  presentationResults : List CoreCheckResult
  credentialResults : List (CredentialVerificationResult CoreCheckResult)
  summary : List SuiteSummary := []
  verifiablePresentation : Option Json := none
  timing : Option Json := none
  isPartial : Option Bool := none

structure DcqlClaim where
  id : Option String := none
  path : List String
  values : Option (List String) := none

/-- The object that collects claim values by path. Assigning to `__proto__`
replaces its prototype instead of adding a member. -/
structure ExtractedClaims where
  members : List (String × Json.Reference) := []
  prototype : Json.Reference := .objectPrototype

structure ClaimsValidation where
  extractedClaims : ExtractedClaims
  requiredClaims : List DcqlClaim
  matched : Bool
  missingClaims : Option (List String)

structure IssuerValidation where
  trustedIssuers : List String
  trustedRegistries : List String
  issuerFound : Bool
  registryMatch : Bool

structure VerificationResult where
  verified : Bool
  presentationResults : List CheckResult
  credentialResults : List (CredentialVerificationResult CheckResult)
  matchedCredentials : List Json
  summary : List SuiteSummary
  verifiablePresentation : Option Json := none
  compatLog : Option (List CheckResult) := none
  timing : Option Json := none
  isPartial : Option Bool := none
  claimsValidation : Option ClaimsValidation := none
  issuerValidation : Option IssuerValidation := none

/-! ## The asynchronous verify task -/

inductive VerifyTaskStatus
  | queued
  | running
  | succeeded
  | failed
  | gaveUp
deriving DecidableEq, Repr

structure TaskError where
  message : String
  timestamp : Timestamp
deriving DecidableEq

structure VerifyTask where
  attemptId : String
  queuedAt : Timestamp
  startedAt : Option Timestamp := none
  deadlineAt : Timestamp
  attempt : Int
  maxAttempts : Int
  openBadgesCredentialIndices : List Nat
  status : VerifyTaskStatus
  lastError : Option TaskError := none
deriving DecidableEq

/-! ## Variables of each workflow -/

structure VerifierOptions where
  verbose : Option Bool := none
  timing : Option Bool := none

structure BaseVariables where
  redirectUrl : Option String := none
  retrievalId : Option String := none
  exchangeHost : String
  metadata : Option Json := none
  challenge : String
  features : Option Json := none
  debug : Option Bool := none
  options : Option VerifierOptions := none
  tenantName : Option String := none
  batchId : Option String := none
  /-- Variables that the schema registers for other workflows. -/
  others : List (String × Json) := []

structure ExchangeOid4vciState where
  preAuthorizedCode : Option String := none
  preAuthorizedCodeExpiresAt : Option Timestamp := none
  codeUsed : Option Bool := none
  accessToken : Option String := none
  accessTokenExpiresAt : Option Timestamp := none
  cNonce : Option String := none
  cNonceExpiresAt : Option Timestamp := none
  nonceUsed : Option Bool := none
deriving DecidableEq

structure ExchangeOid4vpState where
  state : Option String := none
  responseReceived : Option Bool := none
deriving DecidableEq

structure DidAuthResults where
  holder : String
  compatLog : Option (List CheckResult) := none

structure ClaimResults where
  verifiableCredential : List Json
  compatLog : Option (List CheckResult) := none

structure DidAuthVariables extends BaseVariables where
  results : Option DidAuthResults := none

structure ClaimVariables extends BaseVariables where
  vc : String
  subjectData : Option Json := none
  oid4vci : Option ExchangeOid4vciState := none
  results : Option ClaimResults := none

structure VerifyVariables extends BaseVariables where
  vprContext : List String
  vprCredentialType : List String
  trustedIssuers : List String
  trustedRegistries : Option (List String) := none
  vprClaims : List DcqlClaim
  oid4vp : Option ExchangeOid4vpState := none
  results : Option VerificationResult := none
  verifyTask : Option VerifyTask := none

/-! ## Exchanges -/

structure ExchangeDetail (Variables : Type) where
  tenantName : String
  exchangeId : String
  expires : Timestamp
  state : ExchangeState
  vars : Variables

abbrev ExchangeDetailDidAuth := ExchangeDetail DidAuthVariables
abbrev ExchangeDetailClaim := ExchangeDetail ClaimVariables
abbrev ExchangeDetailVerify := ExchangeDetail VerifyVariables

/-- A stored exchange; the constructor plays the role of `workflowId`. -/
inductive Exchange
  | didAuth (detail : ExchangeDetailDidAuth)
  | claim (detail : ExchangeDetailClaim)
  | verify (detail : ExchangeDetailVerify)

namespace Exchange

def workflowId : Exchange → WorkflowId
  | .didAuth _ => .didAuth
  | .claim _ => .claim
  | .verify _ => .verify

def tenantName : Exchange → String
  | .didAuth detail => detail.tenantName
  | .claim detail => detail.tenantName
  | .verify detail => detail.tenantName

def exchangeId : Exchange → String
  | .didAuth detail => detail.exchangeId
  | .claim detail => detail.exchangeId
  | .verify detail => detail.exchangeId

def expires : Exchange → Timestamp
  | .didAuth detail => detail.expires
  | .claim detail => detail.expires
  | .verify detail => detail.expires

def state : Exchange → ExchangeState
  | .didAuth detail => detail.state
  | .claim detail => detail.state
  | .verify detail => detail.state

def baseVariables : Exchange → BaseVariables
  | .didAuth detail => detail.vars.toBaseVariables
  | .claim detail => detail.vars.toBaseVariables
  | .verify detail => detail.vars.toBaseVariables

/-- `{ ...exchange, state }`. -/
def withState : Exchange → ExchangeState → Exchange
  | .didAuth detail, state => .didAuth { detail with state }
  | .claim detail, state => .claim { detail with state }
  | .verify detail, state => .verify { detail with state }

/-- `variables.results`, in the shape its workflow gives it. -/
inductive Results
  | didAuth (results : Option DidAuthResults)
  | claim (results : Option ClaimResults)
  | verify (results : Option VerificationResult)

def results : Exchange → Results
  | .didAuth detail => .didAuth detail.vars.results
  | .claim detail => .claim detail.vars.results
  | .verify detail => .verify detail.vars.results

def verifyTask : Exchange → Option VerifyTask
  | .verify detail => detail.vars.verifyTask
  | _ => none

/-- `{ ...exchange, variables: { ...exchange.variables, ... } }` on a verify
exchange. -/
def mapVerify (update : ExchangeDetailVerify → ExchangeDetailVerify) :
    Exchange → Exchange
  | .verify detail => .verify (update detail)
  | other => other

end Exchange

end TransactionService
