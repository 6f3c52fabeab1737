import TransactionService.VerifyTask.Lifecycle
import TransactionService.Workflows.DidAuthWorkflow

namespace TransactionService

/-! # The verify workflow: requests and results

The presentation request of a verify exchange, and how the answer of the
verifier is turned into the results and the state of the exchange. -/

/-! ## The presentation request -/

def credentialContexts : List String := [credentialContextV1, credentialContextV2]

def getCredentialQuery (vprContext vprCredentialType : List String) : Json :=
  .obj [("example", .obj (
    [("type", .arr (vprCredentialType.map Json.str))] ++
    if vprContext.isEmpty then [] else
      [("@context", .arr (vprContext.map Json.str))]))]

/-- Without a base context the request asks for either credential version. -/
def credentialQueries (vprContext vprCredentialType : List String) : List Json :=
  let specificContexts := vprContext.filter fun context =>
    !credentialContexts.contains context
  if vprContext.isEmpty then [getCredentialQuery [] vprCredentialType]
  else if vprContext.any credentialContexts.contains then
    [getCredentialQuery vprContext vprCredentialType]
  else [
    getCredentialQuery (credentialContextV1 :: specificContexts) vprCredentialType,
    getCredentialQuery (credentialContextV2 :: specificContexts) vprCredentialType]

def getVerifyVPR (exchange : ExchangeDetailVerify) : Json :=
  let serviceEndpoint := exchangeUrl (.verify exchange)
  let byExample := (credentialQueries exchange.vars.vprContext
    exchange.vars.vprCredentialType).map fun credentialQuery =>
      Json.obj [("type", .str "QueryByExample"), ("credentialQuery", credentialQuery)]
  let didAuthQuery := Json.obj [
    ("type", .str "DIDAuthentication"),
    ("acceptedCryptosuites", verifiableCryptosuites),
    ("acceptedMethods", .arr [
      .obj [("method", .str "did:key")], .obj [("method", .str "did:web")]])]
  .obj [
    ("query", .arr (byExample ++ [didAuthQuery])),
    ("interact", .obj [("service", .arr [
      interactService "VerifiableCredentialApiExchangeService" serviceEndpoint,
      interactService "UnmediatedPresentationService2021" serviceEndpoint])]),
    ("challenge", .str exchange.vars.challenge),
    ("domain", .str serviceEndpoint),
    ("acceptedCryptosuites", verifiableCryptosuites)]

/-! ## Claims -/

namespace ExtractedClaims

/-- Whether `__proto__` still names the accessor of `Object.prototype`. -/
def hasPrototypeAccessor (claims : ExtractedClaims) : Bool :=
  match claims.prototype with
  | .json .null => false
  | .json (.obj members) => (members.lookup "__proto__").isNone
  | _ => true

/-- `claims[key] = value`. -/
def assign (claims : ExtractedClaims) (key : String) (value : Json.Reference) :
    ExtractedClaims :=
  if key = "__proto__" ∧ claims.hasPrototypeAccessor then
    match value with
    | .json .null => { claims with prototype := value }
    | .json other => if other.isObjectLike then { claims with prototype := value } else claims
    | _ => { claims with prototype := value }
  else { claims with members := setMember key value claims.members }

/-- `claims[key]`. -/
def get (claims : ExtractedClaims) (key : String) : Option Json.Reference :=
  match claims.members.lookup key with
  | some value => some value
  | none =>
      if key = "__proto__" ∧ claims.hasPrototypeAccessor then some claims.prototype
      else claims.prototype.property key

/-- `Object.assign(claims, other)`. -/
def assignAll (claims other : ExtractedClaims) : ExtractedClaims :=
  (enumerate other.members).foldl (fun all entry => all.assign entry.1 entry.2) claims

end ExtractedClaims

def walkPath : Json.Reference → List String → Option Json.Reference
  | value, [] => some value
  | value, segment :: rest => (value.property segment).bind fun next => walkPath next rest

def DcqlClaim.pathKey (claim : DcqlClaim) : String :=
  String.intercalate "." claim.path

def extractCredentialClaims (credential : Json) (claims : List DcqlClaim) :
    ExtractedClaims :=
  claims.foldl
    (fun extractedClaims claim =>
      if claim.path.isEmpty then extractedClaims
      else
        match walkPath (.json credential) claim.path with
        | some value => extractedClaims.assign claim.pathKey value
        | none => extractedClaims)
    {}

/-- Why one required claim is not met; `none` when it is. Comparing a value that
has no text throws. -/
def missingClaim (extractedClaims : ExtractedClaims) (claim : DcqlClaim) :
    Except Thrown (Option String) :=
  match extractedClaims.get claim.pathKey with
  | none => .ok (some claim.pathKey)
  | some extractedValue =>
      match claim.values with
      | none => .ok none
      | some [] => .ok none
      | some values =>
          match extractedValue.toText with
          | none => .error (.error "Cannot convert object to primitive value")
          | some text =>
              if values.contains text then .ok none
              else .ok (some (claim.pathKey ++ " (expected: " ++
                String.intercalate ", " values ++ ", got: " ++ text ++ ")"))

def matchClaimsAgainstRequirements (extractedClaims : ExtractedClaims) :
    List DcqlClaim → Except Thrown (List String)
  | [] => .ok []
  | claim :: rest =>
      if claim.path.isEmpty then matchClaimsAgainstRequirements extractedClaims rest
      else do
        let missing ← missingClaim extractedClaims claim
        let others ← matchClaimsAgainstRequirements extractedClaims rest
        return missing.toList ++ others

def claimsMatch (claims : List DcqlClaim) (credential : Json) : Except Thrown Bool := do
  let missingClaims ← matchClaimsAgainstRequirements
    (extractCredentialClaims credential claims) claims
  return missingClaims.isEmpty

/-! ## Issuers and registries -/

def isTrustRegistryCheck (check : CheckResult) : Bool :=
  Text.startsWith "trust.registry." check.id

def ensureCheckResultId (check : CoreCheckResult) : CheckResult where
  id := check.id.getD
    (check.suite.getD "undefined" ++ "." ++ check.check.getD "undefined")
  outcome := check.outcome
  fatal := check.fatal
  timing := check.timing

def ensureCredentialResultIds (result : CredentialVerificationResult CoreCheckResult) :
    CredentialVerificationResult CheckResult :=
  { result with results := result.results.map ensureCheckResultId }

@[simp] theorem ensureCredentialResultIds_verified
    (result : CredentialVerificationResult CoreCheckResult) :
    (ensureCredentialResultIds result).verified = result.verified :=
  rfl

structure TrustedIssuerValidation where
  issuerFound : Bool
  registryMatch : Bool

def issuerOf (credential : Json) : Option Json :=
  match credential.field "issuer" with
  | some (.obj members) => some ((members.lookup "id").getD (.obj members))
  | other => other

def registryCheckMatches (trustedRegistries : List String) (check : CheckResult) : Bool :=
  match check.outcome with
  | .success _ _ foundInRegistries =>
      match foundInRegistries.getD [] with
      | [] => trustedRegistries.isEmpty
      | found => trustedRegistries.any found.contains
  | _ => false

def validateTrustedIssuers (credential : Json)
    (trustedIssuers trustedRegistries : List String)
    (credentialResult : CredentialVerificationResult CheckResult) :
    TrustedIssuerValidation where
  issuerFound := ((issuerOf credential).bind Json.asString?).any trustedIssuers.contains
  registryMatch := (credentialResult.results.filter isTrustRegistryCheck).any
    (registryCheckMatches trustedRegistries)

/-! ## The outcome -/

def hasFatalRegistryFailure (credentialResult : CredentialVerificationResult CheckResult) :
    Bool :=
  (credentialResult.results.filter isTrustRegistryCheck).any fun check =>
    check.fatal = some true && check.outcome.isFailure

def determineExchangeOutcome (verified : Bool)
    (credentialResults : List (CredentialVerificationResult CheckResult))
    (exchange : ExchangeDetailVerify) : ExchangeState :=
  if !verified then .invalid
  else if credentialResults.any (fun credentialResult =>
      !credentialResult.verified ||
        (!exchange.vars.trustedIssuers.isEmpty &&
          hasFatalRegistryFailure credentialResult)) then .invalid
  else .complete

def presentCredential {Check : Type} (result : CredentialVerificationResult Check) :
    Option Json :=
  result.verifiableCredential.filter Json.isTruthy

def collectMatches (claims : List DcqlClaim) :
    List (CredentialVerificationResult CheckResult) → ExtractedClaims →
    Except Thrown (List Json × ExtractedClaims)
  | [], allExtractedClaims => .ok ([], allExtractedClaims)
  | credentialResult :: rest, allExtractedClaims =>
      match presentCredential credentialResult with
      | none => collectMatches claims rest allExtractedClaims
      | some credential => do
          if ← claimsMatch claims credential then
            let (validCredentials, extracted) ← collectMatches claims rest
              (allExtractedClaims.assignAll (extractCredentialClaims credential claims))
            return (credential :: validCredentials, extracted)
          else collectMatches claims rest allExtractedClaims

def validateClaims (claims : List DcqlClaim)
    (credentialResults : List (CredentialVerificationResult CheckResult)) :
    Except Thrown (List Json × Option ClaimsValidation) :=
  if claims.isEmpty then
    .ok (credentialResults.filterMap presentCredential, none)
  else do
    let (validCredentials, extractedClaims) ← collectMatches claims credentialResults {}
    return (validCredentials, some {
      extractedClaims
      requiredClaims := claims
      matched := !validCredentials.isEmpty
      missingClaims :=
        if validCredentials.isEmpty then some ["No credentials matched required claims"]
        else none })

def allIssuersValid (exchange : ExchangeDetailVerify)
    (credentialResults : List (CredentialVerificationResult CheckResult)) : Bool :=
  credentialResults.all fun credentialResult =>
    match presentCredential credentialResult with
    | none => true
    | some credential =>
        let validation := validateTrustedIssuers credential exchange.vars.trustedIssuers
          (exchange.vars.trustedRegistries.getD []) credentialResult
        validation.issuerFound || validation.registryMatch

def validateIssuers (exchange : ExchangeDetailVerify)
    (credentialResults : List (CredentialVerificationResult CheckResult)) :
    Option IssuerValidation :=
  let trustedRegistries := exchange.vars.trustedRegistries.getD []
  if exchange.vars.trustedIssuers.isEmpty && trustedRegistries.isEmpty then none
  else some {
    trustedIssuers := exchange.vars.trustedIssuers
    trustedRegistries
    issuerFound := allIssuersValid exchange credentialResults
    registryMatch := allIssuersValid exchange credentialResults }

def storedCredentialResults (result : PresentationVerificationResult) :
    List (CredentialVerificationResult CheckResult) :=
  result.credentialResults.map ensureCredentialResultIds

/-- Results and state of the exchange after a verification. -/
def applyVerificationResults (exchange : ExchangeDetailVerify)
    (result : PresentationVerificationResult) (compatLog : List CheckResult)
    (debug : Bool) : Except Thrown ExchangeDetailVerify := do
  let presentationResults := result.presentationResults.map ensureCheckResultId
  let credentialResults := storedCredentialResults result
  let (matchedCredentials, claimsValidation) ←
    validateClaims exchange.vars.vprClaims credentialResults
  let verificationResult : VerificationResult := {
    verified := result.verified
    presentationResults
    credentialResults
    matchedCredentials
    summary := result.summary
    verifiablePresentation := result.verifiablePresentation.filter Json.isTruthy
    compatLog := if debug && !compatLog.isEmpty then some compatLog else none
    timing := result.timing.filter Json.isTruthy
    isPartial := result.isPartial.filter id
    claimsValidation
    issuerValidation := validateIssuers exchange credentialResults }
  return { exchange with
    state := determineExchangeOutcome result.verified credentialResults exchange
    vars := { exchange.vars with results := some verificationResult } }

end TransactionService
