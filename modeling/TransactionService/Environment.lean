import TransactionService.Foundation.Text
import TransactionService.Service

namespace TransactionService

/-! # Configuration from the environment

`config.ts`: what the variables of the process say about tenants, issuers and
registries. -/

/-- `process.env`, in the order in which it is enumerated. -/
abbrev Environment := List (String × String)

/-- `text.toUpperCase()`, and `parseInt(text)` with `none` for `NaN`. -/
structure TextLibrary where
  toUpperCase : String → String
  parseInt : String → Option Int

section

variable (runtime : Runtime) (library : TextLibrary) (env : Environment)

/-! ## Registries -/

def isSlugCharacter (character : Char) : Bool :=
  ('A' ≤ character && character ≤ 'Z') || ('0' ≤ character && character ≤ '9') ||
    character == '_'

/-- The group of `/^start([A-Z0-9_]+)finish$/`. -/
def slugBetween (start finish key : String) : Option String :=
  let slug := (key.toList.drop start.length).take
    (key.length - start.length - finish.length)
  if key = start ++ String.ofList slug ++ finish ∧ slug ≠ [] ∧ slug.all isSlugCharacter then
    some (String.ofList slug)
  else none

/-- `typeof raw === 'string' ? raw.trim() : ''`. -/
def trimmedVariable (name : String) : String :=
  match env.lookup name with
  | some raw => Text.trim raw
  | none => ""

def dccLegacyRegistry (name url : String) : Json :=
  .obj [("name", .str name), ("type", .str "dcc-legacy"), ("url", .str url)]

/-- The key and the name of the last one differ. -/
def staticKnownRegistries : List (String × Json) := [
  ("DCC Sandbox Registry", dccLegacyRegistry "DCC Sandbox Registry"
    "https://credentials-sandbox.dcconsortium.org/registry.json"),
  ("DCC Community Registry", dccLegacyRegistry "DCC Community Registry"
    "https://digitalcredentials.github.io/community-registry/registry.json"),
  ("DCC Registry", dccLegacyRegistry "DCC Member Registry"
    "https://digitalcredentials.github.io/dcc-registry/registry.json")]

def acceptedIssuersOf (issuers : String) : List String :=
  ((Text.splitOn ',' issuers).map Text.trim).filter (· ≠ "")

def vcRecognitionRegistry (slug url : String) (acceptedIssuers : List String) : Json :=
  .obj [("name", .str ("VC_RECOGNITION_" ++ slug)), ("type", .str "vc-recognition"),
    ("url", .str url), ("acceptedIssuers", .arr (acceptedIssuers.map .str))]

/-- What one key contributes; a registry without a URL or issuers is skipped. -/
def vcRecognitionEntry (key : String) : Option (String × Json) :=
  match slugBetween "REGISTRY_VC_RECOGNITION_" "_URL" key with
  | none => none
  | some slug =>
      let url := trimmedVariable env key
      if url = "" then none
      else
        let issuers := trimmedVariable env
          ("REGISTRY_VC_RECOGNITION_" ++ slug ++ "_ACCEPTED_ISSUERS")
        if issuers = "" then none
        else if acceptedIssuersOf issuers = [] then none
        else some ("VC_RECOGNITION_" ++ slug,
          vcRecognitionRegistry slug url (acceptedIssuersOf issuers))

def parseVcRecognitionRegistriesFromEnv : List (String × Json) :=
  assignMembers (env.filterMap fun entry => vcRecognitionEntry env entry.1)

def oidfRegistry (slug trustAnchorEC : String) : Json :=
  .obj [("name", .str ("OIDF_" ++ slug)), ("type", .str "oidf"),
    ("trustAnchorEC", .str trustAnchorEC)]

def oidfEntry (key : String) : Option (String × Json) :=
  match slugBetween "REGISTRY_OIDF_" "_TRUST_ANCHOR_EC" key with
  | none => none
  | some slug =>
      let trustAnchorEC := trimmedVariable env key
      if trustAnchorEC = "" then none
      else some ("OIDF_" ++ slug, oidfRegistry slug trustAnchorEC)

def parseOidfRegistriesFromEnv : List (String × Json) :=
  assignMembers (env.filterMap fun entry => oidfEntry env entry.1)

def buildKnownRegistries : List (String × Json) :=
  assignMembers (staticKnownRegistries ++ parseOidfRegistriesFromEnv env ++
    parseVcRecognitionRegistriesFromEnv env)

/-! ## Tenants -/

/-- `env[name]`, if it is not empty. -/
def givenVariable (name : String) : Option String :=
  Text.given (env.lookup name)

def issuerVariable (number : Nat) (part suffix : String) : String :=
  "TENANT_ISSUER_" ++ toString number ++ part ++ suffix

def issuerInstanceAt (tenantNameLower : String) (number : Nat) (id : String) :
    IssuerInstance :=
  let suffix := library.toUpperCase tenantNameLower
  { id
    cryptosuite := (env.lookup (issuerVariable number "_CRYPTOSUITE_" suffix)).getD
      "eddsa-rdfc-2022"
    signingServiceTenant :=
      (env.lookup (issuerVariable number "_SIGNING_TENANT_" suffix)).getD tenantNameLower }

/-- The loop from `number` on, at most `fuel` times round. -/
def issuerInstancesFrom (tenantNameLower : String) :
    (fuel number : Nat) → List IssuerInstance
  | 0, _ => []
  | fuel + 1, number =>
      match givenVariable env
          (issuerVariable number "_ID_" (library.toUpperCase tenantNameLower)) with
      | none => []
      | some id =>
          issuerInstanceAt library env tenantNameLower number id ::
            issuerInstancesFrom tenantNameLower fuel (number + 1)

/-- Each turn of the loop needs a variable of its own. -/
def parseIssuerInstancesForTenant (tenantNameLower : String) : List IssuerInstance :=
  issuerInstancesFrom library env tenantNameLower (env.length + 1) 1

def issuerInstancesIfAny (tenantNameLower : String) : Option (List IssuerInstance) :=
  match parseIssuerInstancesForTenant library env tenantNameLower with
  | [] => none
  | instances => some instances

/-- `key.slice(13).toLowerCase()`. -/
def tenantNameOf (key : String) : String :=
  runtime.toLowerCase (Text.sliceFrom 13 key)

def tenantFor (tenantName tenantToken : String) : Tenant where
  tenantName := tenantName
  tenantToken := tenantToken
  origin := givenVariable env ("TENANT_ORIGIN_" ++ tenantName)
  issuerInstances := issuerInstancesIfAny library env tenantName

/-- An assignment to `__proto__` makes no entry. -/
def tenantEntry (entry : String × String) : Option (String × Tenant) :=
  if Text.startsWith "TENANT_TOKEN_" entry.1 ∧ entry.2 ≠ "" then
    let tenantName := tenantNameOf runtime entry.1
    if tenantName = "__proto__" then none
    else some (tenantName, tenantFor library env tenantName entry.2)
  else none

def parseTenantsFromEnv : List (String × Tenant) :=
  assignMembers (env.filterMap (tenantEntry runtime library env))

/-! ## The configuration -/

def parseUiShowDetails (raw : Option String) : Bool :=
  match Text.given raw with
  | none => true
  | some raw =>
      let value := runtime.toLowerCase (Text.trim raw)
      !(value == "false" || value == "0" || value == "no")

/-- `parseInt(env[name] ?? '0') || fallback`. -/
def integerVariable (name : String) (fallback : Int) : Int :=
  match library.parseInt ((env.lookup name).getD "0") with
  | none => fallback
  | some value => if value = 0 then fallback else value

/-- Without tenants the default one is there, and nobody is asked for its
token. -/
def defaultTenant : Tenant where
  tenantName := "default"
  tenantToken := "default"
  issuerInstances := issuerInstancesIfAny library env "default"

def parseConfig : Config :=
  let tenants := parseTenantsFromEnv runtime library env
  { exchangeTtl := integerVariable library env "EXCHANGE_TTL" 600
    statusService := (env.lookup "STATUS_SERVICE").getD ""
    signingService := (env.lookup "SIGNING_SERVICE").getD "http://localhost:4006"
    defaultTenantName := (env.lookup "DEFAULT_TENANT_NAME").getD "default"
    uiShowDetails := parseUiShowDetails runtime (env.lookup "UI_SHOW_DETAILS")
    tenants := if tenants.isEmpty then [("default", defaultTenant library env)] else tenants
    tenantAuthenticationEnabled := !tenants.isEmpty
    defaultTrustedRegistryNames :=
      match givenVariable env "DEFAULT_TRUSTED_REGISTRIES" with
      | some names => (Text.splitOn ',' names).map Text.trim
      | none => ["DCC Sandbox Registry", "DCC Issuer Registry"]
    accessJwtSecret := (env.lookup "ACCESS_JWT_SECRET").getD ""
    knownRegistries := buildKnownRegistries env
    defaultExchangeDebug := decide (env.lookup "EXCHANGE_DEBUG_DEFAULT" = some "true")
    verifyTaskDeadlineMs := integerVariable library env "VERIFY_TASK_DEADLINE_MS" 60000
    verifyTaskMaxAttempts := integerVariable library env "VERIFY_TASK_MAX_ATTEMPTS" 2 }

end

end TransactionService
