import TransactionService.Auth

namespace TransactionService

/-! # The tokens the service issues

`oauth/token.ts` and the signing half of `oauth/accessJwt.ts`, the exchange
tokens of `lib/server/exchangeToken.ts`, and the middleware of `auth.ts` that
accepts either kind. -/

/-- `sign` and `verify` of `hono/jwt`. Verification reads the clock and yields
`none` when it throws. -/
structure JwtLibrary where
  sign : (payload : Json) → (secret : String) → String
  verify : (now : Timestamp) → (token secret : String) → Option Json

/-- The platform as it is when the clock shows `now`. -/
def Runtime.withJwt (runtime : Runtime) (jwt : JwtLibrary) (now : Timestamp) : Runtime :=
  { runtime with verifyJwt := jwt.verify now }

/-- `Math.floor(time / 1000)`. -/
def numericDate (time : Timestamp) : Int :=
  time / 1000

section

variable (jwt : JwtLibrary) (runtime : Runtime) (config : Config)

/-! ## Access tokens -/

def defaultExpiresInSec : Int := 3600

def accessTokenPayload (tenantName : String) (exp : Int) : Json :=
  .obj [("sub", .str tenantName), ("scope", .str scopeExchangeManage),
    ("exp", .num (toString exp))]

def signAccessToken (now : Timestamp) (tenantName : String)
    (expiresInSec : Int := defaultExpiresInSec) : Except Thrown String :=
  if config.accessJwtSecret = "" then .error (.error "ACCESS_JWT_SECRET is not configured")
  else
    let exp := numericDate now + expiresInSec
    .ok (jwt.sign (accessTokenPayload tenantName exp) config.accessJwtSecret)

inductive FormValue
  | text (value : String)
  | file

/-- `String(value)`. -/
def FormValue.toText : FormValue → String
  | .text value => value
  | .file => "[object File]"

/-- `typeof value === 'string' ? value : ''`. -/
def FormValue.asText : Option FormValue → String
  | some (.text value) => value
  | _ => ""

structure OAuthTokenRequest where
  contentType : Option String
  /-- What `parseBody` makes of the body. -/
  body : List (String × FormValue)

def oauthError (status : Nat) (error : String) (description : Option String := none) :
    Response :=
  json (.obj (("error", .str error) ::
    match Text.given description with
    | some description => [("error_description", .str description)]
    | none => [])) status

/-- `config.tenants[clientId.toLowerCase()]`. An inherited property has no token to
compare the secret with. -/
def requestedTenant (request : OAuthTokenRequest) : Option Tenant :=
  config.tenants.lookup
    (runtime.toLowerCase (FormValue.asText (request.body.lookup "client_id")))

def handleOAuthTokenPost (now : Timestamp) (request : OAuthTokenRequest) :
    Except Thrown Response :=
  if !Text.includes "application/x-www-form-urlencoded" (request.contentType.getD "") then
    .ok (oauthError 400 "invalid_request"
      (some "Content-Type must be application/x-www-form-urlencoded"))
  else if config.accessJwtSecret = "" then
    .ok (oauthError 503 "server_error"
      (some "OAuth access tokens are not configured (ACCESS_JWT_SECRET)"))
  else
    let grantType := ((request.body.lookup "grant_type").map FormValue.toText).getD ""
    let clientId := FormValue.asText (request.body.lookup "client_id")
    let clientSecret := FormValue.asText (request.body.lookup "client_secret")
    if grantType ≠ "client_credentials" then
      .ok (oauthError 400 "unsupported_grant_type"
        (some "Only grant_type=client_credentials is supported"))
    else if clientId = "" ∨ clientSecret = "" then
      .ok (oauthError 400 "invalid_request"
        (some "client_id and client_secret are required"))
    else
      match requestedTenant runtime config request with
      | none => .ok (oauthError 401 "invalid_client" (some "Invalid client credentials"))
      | some tenant =>
          if tenant.tenantToken ≠ clientSecret then
            .ok (oauthError 401 "invalid_client" (some "Invalid client credentials"))
          else do
            let accessToken ← signAccessToken jwt config now tenant.tenantName
            return json (.obj [
              ("access_token", .str accessToken),
              ("token_type", .str "Bearer"),
              ("expires_in", .num (toString defaultExpiresInSec))])

/-! ## Exchange tokens -/

def scopeExchangeParticipate : String := "exchange:participate"

def exchangeTokenPayload (exchangeId workflowId : String) (exp : Int) : Json :=
  .obj [("exchangeId", .str exchangeId), ("workflowId", .str workflowId),
    ("exp", .num (toString exp)), ("scope", .str scopeExchangeParticipate)]

variable (secret : String)

def signExchangeToken (exchangeId workflowId : String) (expiresAt : Timestamp) : String :=
  jwt.sign (exchangeTokenPayload exchangeId workflowId (numericDate expiresAt)) secret

/-- Only a scope that is there, and not empty, is looked at. -/
def verifyExchangeToken (now : Timestamp) (token : String) : Option Json :=
  match jwt.verify now token secret with
  | none => none
  | some payload =>
      match payload.field "scope" with
      | none => some payload
      | some .null => some payload
      | some scope =>
          if scope.isText "" then some payload
          else
            match tokenHasScope (some scope) scopeExchangeParticipate with
            | .ok true => some payload
            | _ => none

/-! ## Either kind -/

structure ReadContext where
  authTenant : Option TenantEntry := none
  exchangeTokenAuth : Bool := false

/-- A cookie decides alone when there is one. -/
def authenticateExchangeOrTenantMiddleware (now : Timestamp)
    (cookie authorization : Option String) (exchangeId workflowId : String) :
    Except Thrown ReadContext :=
  match Text.given cookie with
  | some token =>
      let invalid : Except Thrown ReadContext := .error (.http {
        status := 401
        message := "Invalid or insufficient exchange token" })
      match verifyExchangeToken jwt secret now token with
      | some payload =>
          if (payload.field "exchangeId").any (·.isText exchangeId) &&
              (payload.field "workflowId").any (·.isText workflowId) then
            .ok { exchangeTokenAuth := true }
          else invalid
      | none => invalid
  | none => do
      let authTenant ← authenticateTenantMiddleware (runtime.withJwt jwt now) config
        authorization
      return { authTenant }

end

/-- The documented behaviour of `hono/jwt`: an expired token is refused. -/
def JwtLibrary.Expiring (jwt : JwtLibrary) : Prop :=
  ∀ now token secret payload exp, jwt.verify now token secret = some payload →
    payload.field "exp" = some (.num (toString exp)) → numericDate now < exp

/-! ## Issued access tokens -/

variable {jwt : JwtLibrary} {runtime : Runtime} {config : Config}

def KeyedByName (runtime : Runtime) (config : Config) : Prop :=
  ∀ key tenant, config.tenants.lookup key = some tenant →
    runtime.toLowerCase tenant.tenantName = key

structure ClientOf (runtime : Runtime) (config : Config) (request : OAuthTokenRequest)
    (tenant : Tenant) : Prop where
  names : requestedTenant runtime config request = some tenant
  secret : FormValue.asText (request.body.lookup "client_secret") = tenant.tenantToken

def issuedToken (response : Response) : Option String :=
  match response.body with
  | .json value => (value.field "access_token").bind Json.asString?
  | .exchange _ => none

theorem oauthError_issues_nothing {status : Nat} {error token : String}
    {description : Option String} {response : Response}
    (handled : (.ok (oauthError status error description) : Except Thrown Response) =
      .ok response)
    (issues : issuedToken response = some token) : False := by
  cases handled
  simp only [issuedToken, oauthError, json, Json.field] at issues
  split at issues <;> cases issues

theorem handleOAuthTokenPost_issues {now : Timestamp} {request : OAuthTokenRequest}
    {response : Response} {token : String}
    (handled : handleOAuthTokenPost jwt runtime config now request = .ok response)
    (issues : issuedToken response = some token) :
    ∃ tenant, ClientOf runtime config request tenant ∧ config.accessJwtSecret ≠ "" ∧
      token = jwt.sign (accessTokenPayload tenant.tenantName
        (numericDate now + defaultExpiresInSec)) config.accessJwtSecret := by
  simp only [handleOAuthTokenPost] at handled
  split at handled
  · exact (oauthError_issues_nothing handled issues).elim
  split at handled
  · exact (oauthError_issues_nothing handled issues).elim
  rename_i configured
  split at handled
  · exact (oauthError_issues_nothing handled issues).elim
  split at handled
  · exact (oauthError_issues_nothing handled issues).elim
  split at handled
  · exact (oauthError_issues_nothing handled issues).elim
  rename_i tenant names
  split at handled
  · exact (oauthError_issues_nothing handled issues).elim
  rename_i same
  rw [signAccessToken, if_neg configured] at handled
  cases handled
  cases issues
  exact ⟨tenant, ⟨names, (Decidable.not_not.mp same).symm⟩, configured, rfl⟩

end TransactionService
