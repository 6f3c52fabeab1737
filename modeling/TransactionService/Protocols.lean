import TransactionService.Foundation.Fallible
import TransactionService.Oid4vp.Handlers

namespace TransactionService

open Fallible

/-! # The protocols an exchange is offered under

`getProtocols` of `exchanges.ts`, with the links of the Learner Credential Wallet
and the deep links of the two OpenID protocols. -/

/-- `new URL(text).hostname`. -/
def hostnameOf (runtime : Runtime) (text : String) : Except Thrown String :=
  match runtime.urlHostname text with
  | some hostname => .ok hostname
  | none => .error (.error "Invalid URL")

/-- `encodeURIComponent(text)`, which refuses a lone surrogate. -/
def encodeComponent (runtime : Runtime) (text : String) : Except Thrown String :=
  match runtime.encodeURIComponent text with
  | some encoded => .ok encoded
  | none => .error (.error "URI malformed")

section

variable (runtime : Runtime)

/-! ## Links -/

/-- `lcw.protocols.vcapi.getInteractionUrl`. -/
def lcwVcapiUrl (serviceEndpoint challenge : String) : Except Thrown String := do
  let issuer ← hostnameOf runtime serviceEndpoint
  let vcRequestUrl ← encodeComponent runtime serviceEndpoint
  let challenge := if challenge = "" then "" else "&challenge=" ++ challenge
  return "https://lcw.app/request.html?issuer=" ++ issuer ++ "&auth_type=bearer" ++
    challenge ++ "&vc_request_url=" ++ vcRequestUrl

/-- `JSON.stringify({ protocols: { vcapi: serviceEndpoint } })`. -/
def lcwRequest (serviceEndpoint : String) : String :=
  runtime.stringify (.obj [("protocols", .obj [("vcapi", .str serviceEndpoint)])])

/-- `lcw.protocols.vcapiExchange.getInteractionUrl`. -/
def lcwVcapiExchangeUrl (serviceEndpoint : String) : Except Thrown String := do
  let request ← encodeComponent runtime (lcwRequest runtime serviceEndpoint)
  return "https://lcw.app/request?request=" ++ request

def buildOpenIdCredentialOfferDeepLinkByReference (credentialOfferUri : String) :
    Except Thrown String := do
  let encoded ← encodeComponent runtime credentialOfferUri
  return "openid-credential-offer://?credential_offer_uri=" ++ encoded

def buildOid4vpDeepLink (clientId requestUri : String) : Except Thrown String := do
  let encodedClientId ← encodeComponent runtime clientId
  let encodedRequestUri ← encodeComponent runtime requestUri
  return "openid4vp://?client_id=" ++ encodedClientId ++ "&request_uri=" ++ encodedRequestUri

/-! ## Protocols -/

def presentationRequestFor : Exchange → Json
  | .verify exchange => getVerifyVPR exchange
  | exchange => getDIDAuthVPR exchange

def interactionUrl (exchange : Exchange) : String :=
  exchange.baseVariables.exchangeHost ++ "/interactions/" ++ exchange.exchangeId ++ "?iuv=1"

def lcwUrl (exchange : Exchange) : Except Thrown String :=
  match exchange with
  | .verify _ => lcwVcapiExchangeUrl runtime (exchangeUrl exchange)
  | _ => lcwVcapiUrl runtime (exchangeUrl exchange) exchange.baseVariables.challenge

def openIdProtocol : Exchange → Except Thrown (List (String × Json))
  | .didAuth _ => .ok []
  | .claim detail => do
      let link ← buildOpenIdCredentialOfferDeepLinkByReference runtime
        (credentialOfferUriForExchange detail)
      return [("OID4VCI", .str link)]
  | .verify detail => do
      let link ← buildOid4vpDeepLink runtime (clientIdForExchange detail)
        (requestUriForExchange detail)
      return [("OID4VP", .str link)]

structure Protocols where
  iu : String
  vcapi : String
  lcw : String
  verifiablePresentationRequest : Json
  openId : List (String × Json)

def Protocols.toJson (protocols : Protocols) : Json :=
  .obj ([("iu", .str protocols.iu), ("vcapi", .str protocols.vcapi),
    ("lcw", .str protocols.lcw),
    ("verifiablePresentationRequest", protocols.verifiablePresentationRequest)] ++
    protocols.openId)

/-- The service endpoint is the exchange's own URL. -/
def getProtocols (exchange : Exchange) : Except Thrown Protocols := do
  let lcw ← lcwUrl runtime exchange
  let openId ← openIdProtocol runtime exchange
  return {
    iu := interactionUrl exchange
    vcapi := exchangeUrl exchange
    lcw
    verifiablePresentationRequest := presentationRequestFor exchange
    openId }

end

/-! ## When the links can be put together -/

def linkTexts (runtime : Runtime) : Exchange → List String
  | .didAuth detail => [exchangeUrl (.didAuth detail)]
  | .claim detail => [exchangeUrl (.claim detail), credentialOfferUriForExchange detail]
  | .verify detail => [lcwRequest runtime (exchangeUrl (.verify detail)),
      clientIdForExchange detail, requestUriForExchange detail]

/-- The exchange's URL is one, where its hostname is asked for, and everything
that goes into a link can be encoded. -/
structure Linkable (runtime : Runtime) (exchange : Exchange) : Prop where
  hostname : exchange.workflowId ≠ .verify →
    (runtime.urlHostname (exchangeUrl exchange)).isSome = true
  encoded : ∀ text ∈ linkTexts runtime exchange,
    (runtime.encodeURIComponent text).isSome = true

/-- An error that no handler expects; it is answered with status 500. -/
def IsUnexpected (thrown : Thrown) : Prop :=
  ∃ message, thrown = .error message

section

variable {runtime : Runtime} {text : String}

private theorem hostnameOf_failsOnly : FailsOnly IsUnexpected (hostnameOf runtime text) := by
  unfold hostnameOf
  split
  · exact .ok _
  · exact .error ⟨_, rfl⟩

theorem encodeComponent_failsOnly : FailsOnly IsUnexpected (encodeComponent runtime text) := by
  unfold encodeComponent
  split
  · exact .ok _
  · exact .error ⟨_, rfl⟩

theorem getProtocols_failsOnly (exchange : Exchange) :
    FailsOnly IsUnexpected (getProtocols runtime exchange) := by
  have wallet : FailsOnly IsUnexpected (lcwUrl runtime exchange) := by
    cases exchange with
    | verify detail => exact encodeComponent_failsOnly.bind fun _ => .ok _
    | _ =>
        exact hostnameOf_failsOnly.bind fun _ =>
          encodeComponent_failsOnly.bind fun _ => .ok _
  have openId : FailsOnly IsUnexpected (openIdProtocol runtime exchange) := by
    cases exchange with
    | didAuth detail => exact .ok _
    | claim detail =>
        exact (encodeComponent_failsOnly.bind fun _ => .ok _).bind fun _ => .ok _
    | verify detail =>
        exact (encodeComponent_failsOnly.bind fun _ =>
          encodeComponent_failsOnly.bind fun _ => .ok _).bind fun _ => .ok _
  exact wallet.bind fun _ => openId.bind fun _ => .ok _

private theorem hostnameOf_succeeds :
    Succeeds (hostnameOf runtime text) ↔ (runtime.urlHostname text).isSome = true := by
  unfold hostnameOf
  cases runtime.urlHostname text <;> simp [Succeeds]

theorem encodeComponent_succeeds :
    Succeeds (encodeComponent runtime text) ↔
      (runtime.encodeURIComponent text).isSome = true := by
  unfold encodeComponent
  cases runtime.encodeURIComponent text <;> simp [Succeeds]

theorem lcwVcapiUrl_succeeds {challenge : String} :
    Succeeds (lcwVcapiUrl runtime text challenge) ↔
      (runtime.urlHostname text).isSome = true ∧
        (runtime.encodeURIComponent text).isSome = true := by
  have encoded : ∀ issuer : String, Succeeds (do
      let vcRequestUrl ← encodeComponent runtime text
      let challenge := if challenge = "" then "" else "&challenge=" ++ challenge
      return "https://lcw.app/request.html?issuer=" ++ issuer ++ "&auth_type=bearer" ++
        challenge ++ "&vc_request_url=" ++ vcRequestUrl) ↔
      (runtime.encodeURIComponent text).isSome = true :=
    fun _ => (succeeds_map _).trans encodeComponent_succeeds
  exact (succeeds_bind encoded).trans (and_congr_left' hostnameOf_succeeds)

private theorem lcwVcapiExchangeUrl_succeeds :
    Succeeds (lcwVcapiExchangeUrl runtime text) ↔
      (runtime.encodeURIComponent (lcwRequest runtime text)).isSome = true :=
  (succeeds_map _).trans encodeComponent_succeeds

private theorem offerLink_succeeds :
    Succeeds (buildOpenIdCredentialOfferDeepLinkByReference runtime text) ↔
      (runtime.encodeURIComponent text).isSome = true :=
  (succeeds_map _).trans encodeComponent_succeeds

private theorem requestLink_succeeds {clientId : String} :
    Succeeds (buildOid4vpDeepLink runtime clientId text) ↔
      (runtime.encodeURIComponent clientId).isSome = true ∧
        (runtime.encodeURIComponent text).isSome = true :=
  (succeeds_bind fun _ => (succeeds_map _).trans encodeComponent_succeeds).trans
    (and_congr_left' encodeComponent_succeeds)

theorem getProtocols_succeeds {exchange : Exchange} :
    Succeeds (getProtocols runtime exchange) ↔ Linkable runtime exchange := by
  have both : Succeeds (getProtocols runtime exchange) ↔
      Succeeds (lcwUrl runtime exchange) ∧ Succeeds (openIdProtocol runtime exchange) :=
    succeeds_bind fun _ => succeeds_map _
  have linkable : Linkable runtime exchange ↔
      (exchange.workflowId ≠ .verify →
        (runtime.urlHostname (exchangeUrl exchange)).isSome = true) ∧
      ∀ text ∈ linkTexts runtime exchange,
        (runtime.encodeURIComponent text).isSome = true :=
    ⟨fun able => ⟨able.hostname, able.encoded⟩, fun able => ⟨able.1, able.2⟩⟩
  rw [both, linkable]
  cases exchange with
  | didAuth detail =>
      have wallet : Succeeds (lcwUrl runtime (.didAuth detail)) ↔ _ := lcwVcapiUrl_succeeds
      have openId : Succeeds (openIdProtocol runtime (.didAuth detail)) := ⟨[], rfl⟩
      simp [wallet, openId, linkTexts, Exchange.workflowId]
  | claim detail =>
      have wallet : Succeeds (lcwUrl runtime (.claim detail)) ↔ _ := lcwVcapiUrl_succeeds
      have openId : Succeeds (openIdProtocol runtime (.claim detail)) ↔ _ :=
        (succeeds_map _).trans offerLink_succeeds
      simp [wallet, openId, linkTexts, Exchange.workflowId, and_assoc]
  | verify detail =>
      have wallet : Succeeds (lcwUrl runtime (.verify detail)) ↔ _ :=
        lcwVcapiExchangeUrl_succeeds
      have openId : Succeeds (openIdProtocol runtime (.verify detail)) ↔ _ :=
        (succeeds_map _).trans requestLink_succeeds
      simp [wallet, openId, linkTexts, Exchange.workflowId]

end

end TransactionService
