import TransactionService.Auth
import TransactionService.Protocols
import TransactionService.VerifyTask.Sweep
import TransactionService.VerifyTask.Worker

namespace TransactionService

/-! # Participation and routes

`exchanges.ts` and the routes of `hono.ts` that work on one stored exchange. -/

section

variable (runtime : Runtime) (config : Config) (answers : Answers)

/-! ## Participation -/

/-- The first contact activates a pending exchange. -/
def participateWithEmptyBody (exchange : Exchange) : Handler Json := do
  let exchange' := if exchange.state = .pending then exchange.withState .active else exchange
  if exchange.state = .pending then
    saveExchange answers exchange'
  return .obj [("verifiablePresentationRequest", presentationRequestFor exchange')]

/-- `!data || !Object.keys(data).length`. -/
def isEmptyBody : Json → Bool
  | .obj members => members.isEmpty
  | .arr items => items.isEmpty
  | .str text => decide (text = "")
  | _ => true

def participateInExchange (data : Json) (exchange : Exchange) : Handler Json :=
  if exchange.state = .complete then
    throwHttp 400 "Exchange has already been completed."
  else if isEmptyBody data then
    participateWithEmptyBody answers exchange
  else
    match exchange with
    | .didAuth detail => participateInDidAuthExchange runtime config answers data detail
    | .claim detail =>
        participateInClaimExchange runtime config answers data detail (getWorkflow .claim)
    | .verify detail => participateInVerifyExchange runtime config answers data detail

/-! ## Loading -/

def getExchangeData (stored : Option Exchange) (workflowId : String) :
    Except Thrown Exchange :=
  match stored with
  | none => .error (.http { status := 404, message := "Unknown exchangeId." })
  | some exchange =>
      if exchange.workflowId.text ≠ workflowId then
        .error (.http { status := 404, message := "Unknown exchangeId." })
      else .ok exchange

def getExchangeDataById (stored : Option Exchange) : Except Thrown Exchange :=
  match stored with
  | none => .error (.http { status := 404, message := "Unknown exchangeId." })
  | some exchange => .ok exchange

/-- The workflow table also answers to the names every object inherits. -/
def addWorkflowByParam (workflowId : String) : Except Thrown Unit :=
  if (WorkflowId.ofText? workflowId).isSome ||
      (Json.objectPrototypeProperty workflowId).isSome then .ok ()
  else .error (.http { status := 404, message := "Workflow not found" })

def onClaim (message : String) (route : ExchangeDetailClaim → Handler Response) :
    Exchange → Handler Response
  | .claim exchange => route exchange
  | _ => throwHttp 400 message

def onVerify (message : String) (route : ExchangeDetailVerify → Handler Response) :
    Exchange → Handler Response
  | .verify exchange => route exchange
  | _ => throwHttp 400 message

/-! ## Reading the state -/

/-- A tenant sees only its own exchanges; an exchange token needs no tenant. -/
def authorizeRead (tenant : Option TenantEntry) (exchangeToken : Bool) (exchange : Exchange) :
    Except Thrown Unit :=
  if exchangeToken then .ok ()
  else if config.tenantAuthenticationEnabled &&
      tenant.any (·.tenantName ≠ some exchange.tenantName) then
    .error (.http { status := 401, message := "Unauthorized" })
  else .ok ()

/-- `authenticateExchangeOrTenantMiddleware`, for a request whose exchange token
has been checked or that carries none. -/
def authenticateRead (authorization : Option String) (exchangeToken : Bool) :
    Except Thrown (Option TenantEntry) :=
  if exchangeToken then .ok none
  else authenticateTenantMiddleware runtime config authorization

def exchangeDetailRoute (authorization : Option String) (exchangeToken : Bool)
    (workflowId : String) (stored : Option Exchange) : Handler Response := do
  let tenant ← Action.ofExcept
    (authenticateRead runtime config authorization exchangeToken)
  Action.ofExcept (addWorkflowByParam workflowId)
  let loaded ← Action.ofExcept (getExchangeData stored workflowId)
  Action.ofExcept (authorizeRead config tenant exchangeToken loaded)
  let exchange ← sweepIfTimedOut config answers loaded stored
  return { status := 200, body := .exchange exchange }

def protocolsRoute (workflowId : String) (stored : Option Exchange) : Handler Response :=
  Action.recover
    (do
      let loaded ← Action.ofExcept (getExchangeData stored workflowId)
      let exchange ← sweepIfTimedOut config answers loaded stored
      let protocols ← Action.ofExcept (getProtocols runtime exchange)
      return json (.obj [("protocols", protocols.toJson)]))
    fun thrown => match thrown with
      | .http exception =>
          if exception.status = 404 then
            some (json (.obj [("code", .num "404"), ("message", .str "Exchange not found")])
              404)
          else none
      | _ => none

def interactionRoute (stored : Option Exchange) : Handler Response := do
  let loaded ← Action.ofExcept (getExchangeDataById stored)
  let exchange ← sweepIfTimedOut config answers loaded stored
  let protocols ← Action.ofExcept (getProtocols runtime exchange)
  return json (.obj [("protocols", protocols.toJson)])

/-! ## All routes of one exchange -/

inductive Endpoint
  | participate (data : Json)
  | legacyParticipate
  | exchangeDetail (authorization : Option String) (exchangeToken : Bool)
  | protocols
  | interaction
  | credentialOffer
  | token (body : Json)
  | nonce
  | credential (authorization : Option String) (body : Option Json)
  | authorizationRequest
  | directPost (body : Option Json)

/-- Serve one request; `stored` is what the store holds while it runs. -/
def serve (workflowId : String) (endpoint : Endpoint) (stored : Option Exchange) :
    Handler Response :=
  match endpoint with
  | .participate data => do
      Action.ofExcept (addWorkflowByParam workflowId)
      let exchange ← Action.ofExcept (getExchangeData stored workflowId)
      json <$> participateInExchange runtime config answers data exchange
  | .legacyParticipate => do
      let exchange ← Action.ofExcept (getExchangeData stored "didAuth")
      json <$> participateInExchange runtime config answers .null exchange
  | .exchangeDetail authorization exchangeToken =>
      exchangeDetailRoute runtime config answers authorization exchangeToken workflowId stored
  | .protocols => protocolsRoute runtime config answers workflowId stored
  | .interaction => interactionRoute runtime config answers stored
  | .credentialOffer => do
      let exchange ← Action.ofExcept (getExchangeData stored workflowId)
      onClaim "OID4VCI credential offer is only available for claim exchanges"
        (credentialOfferRoute runtime answers) exchange
  | .token body => do
      let exchange ← Action.ofExcept (getExchangeData stored workflowId)
      onClaim "OID4VCI token endpoint is only available for claim exchanges"
        (tokenRoute answers body) exchange
  | .nonce => do
      let exchange ← Action.ofExcept (getExchangeData stored workflowId)
      onClaim "OID4VCI nonce endpoint is only available for claim exchanges"
        (nonceRoute answers) exchange
  | .credential authorization body => do
      let exchange ← Action.ofExcept (getExchangeData stored workflowId)
      onClaim "OID4VCI credential endpoint is only available for claim exchanges"
        (credentialRoute runtime config answers authorization body) exchange
  | .authorizationRequest => do
      let exchange ← Action.ofExcept (getExchangeData stored workflowId)
      onVerify "OID4VP authorization request is only available for verify exchanges"
        (oid4vpRequestRoute runtime answers) exchange
  | .directPost body => do
      let exchange ← Action.ofExcept (getExchangeData stored workflowId)
      onVerify "OID4VP response endpoint is only available for verify exchanges"
        (oid4vpResponseRoute runtime config answers body) exchange

end

end TransactionService
