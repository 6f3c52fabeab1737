import TransactionService.Exchange
import TransactionService.Foundation.Action
import TransactionService.Foundation.Text

namespace TransactionService

/-! # What the service is given

Its configuration, the platform and library functions it uses, and the answers
that the outside world gives while one request runs. -/

/-! ## Configuration -/

structure IssuerInstance where
  id : String
  cryptosuite : String
  signingServiceTenant : String

structure Tenant where
  tenantName : String
  tenantToken : String
  origin : Option String := none
  issuerInstances : Option (List IssuerInstance) := none

structure Config where
  exchangeTtl : Int := 600
  statusService : String := ""
  signingService : String := "http://localhost:4006"
  defaultTenantName : String := "default"
  uiShowDetails : Bool := true
  accessJwtSecret : String := ""
  /-- Keyed by lower-cased tenant name. -/
  tenants : List (String × Tenant) := []
  tenantAuthenticationEnabled : Bool := false
  defaultTrustedRegistryNames : List String := []
  knownRegistries : List (String × Json) := []
  defaultExchangeDebug : Bool := false
  verifyTaskDeadlineMs : Int := 60000
  verifyTaskMaxAttempts : Int := 2

/-- What a key finds in `config.tenants`: a tenant, or a property that every object
inherits, such as `constructor`, which has no member of a tenant. -/
inductive TenantEntry
  | configured (tenant : Tenant)
  | inherited (reference : Json.Reference)

namespace TenantEntry

def tenantName : TenantEntry → Option String
  | .configured tenant => some tenant.tenantName
  | .inherited _ => none

def tenantToken : TenantEntry → Option String
  | .configured tenant => some tenant.tenantToken
  | .inherited _ => none

end TenantEntry

/-- `config.tenants[key]`. -/
def Config.tenantAt (config : Config) (key : String) : Option TenantEntry :=
  match config.tenants.lookup key with
  | some tenant => some (.configured tenant)
  | none => ((Json.Reference.json (.obj [])).property key).map .inherited

theorem Config.tenantAt_of_lookup {config : Config} {key : String} {tenant : Tenant}
    (found : config.tenants.lookup key = some tenant) :
    config.tenantAt key = some (.configured tenant) := by
  rw [Config.tenantAt, found]

theorem Config.tenantAt_eq_configured {config : Config} {key : String} {tenant : Tenant} :
    config.tenantAt key = some (.configured tenant) ↔
      config.tenants.lookup key = some tenant := by
  constructor
  · intro found
    unfold Config.tenantAt at found
    split at found
    · rename_i other isEntry
      cases found
      exact isEntry
    · rcases Option.map_eq_some_iff.mp found with ⟨reference, -, impossible⟩
      cases impossible
  · exact Config.tenantAt_of_lookup

/-- Registry entries are passed to verifier-core as they are configured. A name
such as `constructor` finds a property that every object inherits. -/
abbrev EntityIdentityRegistry := Json.Reference

/-! ## Platform and libraries -/

/-- Pure functions of the platform and of third-party packages. -/
structure Runtime where
  /-- `text.toLowerCase()`. -/
  toLowerCase : String → String
  /-- `Buffer.from(text, 'base64').toString('utf8')`. -/
  decodeBase64 : String → String
  /-- `JSON.parse(text)`; `none` when it throws. -/
  parseJson : String → Option Json
  /-- `verify(token, secret, 'HS256')` of `hono/jwt`; `none` when it throws. -/
  verifyJwt : String → String → Option Json
  /-- `process.env[name]`. -/
  env : String → Option String
  /-- `z.string().url()`. -/
  isUrl : String → Bool
  /-- The instant of a text that `z.string().datetime()` accepts. -/
  parseDatetime : String → Option Timestamp
  /-- `new URL(text).hostname`; `none` when it throws. -/
  urlHostname : String → Option String
  /-- `encodeURIComponent(text)`; `none` when it throws. -/
  encodeURIComponent : String → Option String
  /-- `JSON.stringify(value)`. -/
  stringify : Json → String
  /-- `Handlebars.compile(template)(variables)`; `none` when it throws. -/
  renderTemplate : String → ClaimVariables → Option String
  /-- `isOpenBadgeCredential` of verifier-core. -/
  isOpenBadgeCredential : Option Json → Bool
  /-- `createPresentation()` of `@digitalbazaar/vc`. -/
  createPresentation : Json

def Runtime.plain : Runtime where
  toLowerCase := id
  decodeBase64 := id
  parseJson _ := none
  verifyJwt _ _ := none
  env _ := none
  isUrl := Text.startsWith "http"
  parseDatetime _ := none
  urlHostname text := if Text.startsWith "http" text then some "localhost" else none
  encodeURIComponent := some
  stringify _ := "\x7b\x7d"
  renderTemplate _ vars := some vars.vc
  isOpenBadgeCredential _ := false
  createPresentation := .obj [
    ("@context", .arr [.str "https://www.w3.org/2018/credentials/v1"]),
    ("type", .arr [.str "VerifiablePresentation"])]

/-! ## Calls to other components -/

structure VerifyPresentationCall where
  presentation : Json
  challenge : String
  registries : Option (List EntityIdentityRegistry) := none
  verbose : Option Bool := none
  timing : Option Bool := none

structure VerifyCredentialCall where
  credential : Json
  additionalSuites : List String
  registries : List EntityIdentityRegistry
  verbose : Option Bool := none
  timing : Option Bool := none

inductive Call
  | verifyPresentation (call : VerifyPresentationCall)
  | verifyCredential (call : VerifyCredentialCall)
  | callService (endpoint : String) (body : Json)
  | enqueueVerifyTask (exchangeId : String)

/-- What the outside world answers while one request or worker run is carried
out. Successive readings of the clock need not be related. -/
structure Answers where
  clock : Nat → Timestamp
  randomUUID : Nat → String
  /-- `randomBytes(n).toString('base64url')`. -/
  randomBytes : String
  verifyPresentation : VerifyPresentationCall → Except String PresentationVerificationResult
  /-- The answer to the call with the given number. -/
  verifyCredential : Nat → VerifyCredentialCall →
    Except String (CredentialVerificationResult CoreCheckResult)
  /-- `none` when the request fails. -/
  callService : String → Json → Option Json
  /-- Whether the store accepts a write; a worker run makes two. -/
  accepted : Nat → Bool

def Answers.plain : Answers where
  clock _ := 0
  randomUUID _ := "uuid"
  randomBytes := "random"
  verifyPresentation _ :=
    .ok { verified := true, presentationResults := [], credentialResults := [] }
  verifyCredential _ _ := .error "not verified"
  callService _ body := some body
  accepted _ := true

/-! ## Failures and responses -/

/-- A problem detail, or all those of the issues that a schema reports for a
value under a location. -/
inductive Problem
  | detail (problem : ProblemDetail)
  | schema (location : String) (value : Json)

structure HttpException where
  status : Nat
  message : String
  problemDetails : Option (List Problem) := none

inductive Thrown
  | http (exception : HttpException)
  | zodError
  | error (message : String)

/-- An exchange is sent as it is. -/
inductive Body
  | json (value : Json)
  | exchange (exchange : Exchange)

structure Response where
  status : Nat
  body : Body

abbrev Handler := Action Call Exchange Thrown

/-- `throw new HTTPException(status, { message, cause })`. -/
def throwHttp (status : Nat) (message : String)
    (problemDetails : Option (List Problem) := none) : Handler α :=
  Action.fail (.http { status, message, problemDetails })

def json (value : Json) (status : Nat := 200) : Response :=
  { status, body := .json value }

/-! ## `utils.ts` -/

def callService (answers : Answers) (endpoint : String) (body : Json) : Handler Json :=
  Action.perform (.callService endpoint body)
    (match answers.callService endpoint body with
      | some data => .ok data
      | none => .error (.error "Request failed"))

/-! ## `config.ts` -/

def mapRegistryNamesToRegistries (runtime : Runtime) (registryNames : List String)
    (knownRegistries : List (String × Json)) : List EntityIdentityRegistry :=
  registryNames.map fun name =>
    match (Json.Reference.json (.obj knownRegistries)).property name with
    | some registry => registry
    | none =>
        .json (.obj [
          ("name", .str name),
          ("type", .str "dcc-legacy"),
          ("url", .str (
            if Text.startsWith "http" name then name
            else
              "https://example.com/" ++
                String.ofList (Text.replaceSpaces ['-'] false
                  (runtime.toLowerCase name).toList) ++
                ".json"))])

end TransactionService
