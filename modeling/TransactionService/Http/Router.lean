import TransactionService.Foundation.PathPattern

namespace TransactionService.Router

open PathPattern

/-! # The route table

The routes of `hono.ts`, in the order in which they are registered. -/

inductive Method
  | get
  | post
  deriving DecidableEq

inductive Route
  | index
  | healthz
  | oauthToken
  | oauthAuthorizationServerMetadata
  | exchangeBatchCreate
  | exchangeCreate
  | legacyParticipate
  | participate
  | exchangeDetail
  | protocols
  | oid4vciIssuerMetadata
  | oid4vciAuthorizationServerMetadata
  | oid4vciCredentialOffer
  | oid4vpRequest
  | oid4vpResponse
  | oid4vciToken
  | oid4vciNonce
  | oid4vciCredential
  | interaction
  deriving DecidableEq

/-- `/workflows/:workflowId/exchanges/:exchangeId` -/
def exchangePattern : List Part :=
  [.literal "workflows", .parameter "workflowId", .literal "exchanges", .parameter "exchangeId"]

def routes : List (Registered Method Route) := [
  ⟨.get, [.literal ""], .index⟩,
  ⟨.get, [.literal "healthz"], .healthz⟩,
  ⟨.post, [.literal "oauth", .literal "token"], .oauthToken⟩,
  ⟨.get, [.literal ".well-known", .literal "oauth-authorization-server"],
    .oauthAuthorizationServerMetadata⟩,
  ⟨.post, [.literal "exchange"], .exchangeBatchCreate⟩,
  ⟨.post, [.literal "workflows", .parameter "workflowId", .literal "exchanges"],
    .exchangeCreate⟩,
  ⟨.post, [.literal "exchange", .parameter "exchangeId"], .legacyParticipate⟩,
  ⟨.post, exchangePattern, .participate⟩,
  ⟨.get, exchangePattern, .exchangeDetail⟩,
  ⟨.get, exchangePattern ++ [.literal "protocols"], .protocols⟩,
  ⟨.get, [.literal ".well-known", .literal "openid-credential-issuer"] ++ exchangePattern,
    .oid4vciIssuerMetadata⟩,
  ⟨.get, [.literal ".well-known", .literal "oauth-authorization-server"] ++ exchangePattern,
    .oid4vciAuthorizationServerMetadata⟩,
  ⟨.get, exchangePattern ++ [.literal "openid", .literal "credential-offer"],
    .oid4vciCredentialOffer⟩,
  ⟨.get, exchangePattern ++ [.literal "openid4vp", .literal "request"], .oid4vpRequest⟩,
  ⟨.post, exchangePattern ++ [.literal "openid4vp", .literal "response"], .oid4vpResponse⟩,
  ⟨.post, exchangePattern ++ [.literal "openid", .literal "token"], .oid4vciToken⟩,
  ⟨.post, exchangePattern ++ [.literal "openid", .literal "nonce"], .oid4vciNonce⟩,
  ⟨.post, exchangePattern ++ [.literal "openid", .literal "credential"], .oid4vciCredential⟩,
  ⟨.get, [.literal "interactions", .parameter "exchangeId"], .interaction⟩]

theorem routes_separate : routes.Pairwise Separate := by
  decide

end TransactionService.Router
