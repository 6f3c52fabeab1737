import TransactionService.Service

namespace TransactionService

/-! # Tenant authentication

`auth.ts` with the access tokens of `oauth/accessJwt.ts` and
`oauth/scopes.ts`. -/

section

variable (runtime : Runtime) (config : Config)

/-! ## OAuth access tokens -/

def scopeExchangeManage : String := "exchange:manage"

/-- A claim that is neither text nor absent has no `trim` method. -/
def tokenHasScope (scopeClaim : Option Json) (scope : String) : Except Thrown Bool :=
  match scopeClaim with
  | none => .ok false
  | some .null => .ok false
  | some (.str claim) =>
      if Text.trim claim = "" then .ok false
      else .ok ((Text.words claim).contains scope)
  | some _ => .error (.error "scopeClaim?.trim is not a function")

def Json.isNumber : Json → Bool
  | .num _ => true
  | _ => false

/-- The payload of an accepted access token. The type of `sub` is asserted by
the source, not checked. -/
def verifyAccessToken (token : String) : Option Json :=
  if config.accessJwtSecret = "" then none
  else
    match runtime.verifyJwt token config.accessJwtSecret with
    | none => none
    | some payload =>
        if !Json.truthy (payload.field "sub") ||
            !(payload.field "exp").any Json.isNumber then none
        else
          match tokenHasScope (payload.field "scope") scopeExchangeManage with
          | .ok true => some payload
          | _ => none

/-! ## Credentials in the header -/

def tenantKey (name : String) : String :=
  runtime.toLowerCase name

structure BasicAuthCredentials where
  user : String
  password : String

def parseBasicAuthCredentials (authHeader : String) : Option BasicAuthCredentials :=
  match Text.splitOn ' ' authHeader with
  | scheme :: encoded :: _ =>
      if scheme ≠ "Basic" ∨ encoded = "" then none
      else
        let decoded := runtime.decodeBase64 encoded
        match Text.indexOf ':' decoded with
        | none => none
        | some colon =>
            if colon < 1 then none
            else some {
              user := Text.sliceTo colon decoded
              password := Text.sliceFrom (colon + 1) decoded }
  | _ => none

def getTenant (tenantName tenantToken : Option String) : Option TenantEntry :=
  if !config.tenantAuthenticationEnabled then none
  else
    match Text.given tenantName, Text.given tenantToken with
    | some name, none => config.tenantAt (tenantKey runtime name)
    | none, some token =>
        -- `Object.values` lists own members only.
        ((objectValues config.tenants).find? (·.tenantToken = token)).map .configured
    | some name, some token =>
        match config.tenantAt (tenantKey runtime name) with
        | some tenant => if tenant.tenantToken = some token then some tenant else none
        | none => none
    | none, none => none

def authenticateTenant (tenantToken : String) : Except Thrown (Option TenantEntry) :=
  if !config.tenantAuthenticationEnabled then .ok none
  else
    match verifyAccessToken runtime config tenantToken with
    | some payload =>
        match payload.field "sub" with
        | some (.str sub) => .ok (config.tenantAt (runtime.toLowerCase sub))
        | _ => .error (.error "accessPayload.sub.toLowerCase is not a function")
    | none => .ok (getTenant runtime config none (some tenantToken))

def tenantFromAuthorizationHeader (authorization : Option String) :
    Except Thrown (Option TenantEntry) :=
  match Text.given authorization with
  | none => .ok none
  | some authorization =>
      match Text.splitOn ' ' authorization with
      | [] => .ok none
      | scheme :: rest =>
          if scheme = "Basic" then
            match parseBasicAuthCredentials runtime authorization with
            | none => .ok none
            | some creds =>
                .ok (getTenant runtime config (some creds.user) (some creds.password))
          else if scheme = "Bearer" then
            authenticateTenant runtime config (rest.head?.getD "")
          else .ok none

/-- What the request runs as, `none` when authentication is disabled. -/
def authenticateTenantMiddleware (authorization : Option String) :
    Except Thrown (Option TenantEntry) :=
  if !config.tenantAuthenticationEnabled then .ok none
  else
    match tenantFromAuthorizationHeader runtime config authorization with
    | .error thrown => .error thrown
    | .ok none => .error (.http {
        status := 401
        message := "Unauthorized. Use Bearer <token> or Basic <base64(tenant:secret)>." })
    | .ok (some tenant) => .ok (some tenant)

end

end TransactionService
