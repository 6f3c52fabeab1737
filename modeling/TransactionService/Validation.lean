import TransactionService.Service

namespace TransactionService

/-! # Structural validation of presentations and credentials

The schemas of `lib/data` as tests on JSON values, and the errors raised when a
value fails them. -/

namespace Schema

def isRecord : Json → Bool
  | .obj _ => true
  | _ => false

def isArrayOf (item : Json → Bool) : Json → Bool
  | .arr items => items.all item
  | _ => false

def isNonemptyArrayOf (item : Json → Bool) (value : Json) : Bool :=
  isArrayOf item value && !value.arrayOf.isEmpty

/-- `z.string().min(1)`. -/
def isNonemptyText : Json → Bool
  | .str text => decide (text ≠ "")
  | _ => false

def required (value : Json) (name : String) (schema : Json → Bool) : Bool :=
  (value.field name).any schema

/-- A member that may be absent, but not `null`. -/
def optional (value : Json) (name : String) (schema : Json → Bool) : Bool :=
  (value.field name).all schema

/-- `JsonLdFieldAllowEmpty`: one value or an array of them. -/
def jsonLdFieldAllowEmpty (item : Json → Bool) (value : Json) : Bool :=
  item value || isArrayOf item value

/-- `JsonLdField`: one value or a non-empty array of them. -/
def jsonLdField (item : Json → Bool) (value : Json) : Bool :=
  jsonLdFieldAllowEmpty item value && !value.arrayOf.isEmpty

/-- `JsonLdField(z.string())` that includes `name`. -/
def typeIncluding (name : String) (value : Json) : Bool :=
  jsonLdField Json.isString value && Json.includesText value.arrayOf name

def proof (value : Json) : Bool :=
  isRecord value &&
  required value "type" Json.isString &&
  required value "created" Json.isString &&
  required value "verificationMethod" Json.isString &&
  required value "proofPurpose" Json.isString &&
  required value "proofValue" Json.isString &&
  optional value "cryptosuite" Json.isString &&
  optional value "challenge" Json.isString &&
  optional value "jws" Json.isString

def holder (value : Json) : Bool :=
  value.isString || (isRecord value && required value "id" Json.isString)

def verifiablePresentation (value : Json) : Bool :=
  isRecord value &&
  required value "@context" (isArrayOf Json.isString) &&
  optional value "id" Json.isString &&
  required value "type" (typeIncluding "VerifiablePresentation") &&
  optional value "verifiableCredential" (jsonLdField isRecord) &&
  optional value "holder" holder &&
  required value "proof" proof

def issuer (value : Json) : Bool :=
  value.isString ||
    (isRecord value && required value "id" Json.isString &&
      optional value "type" (jsonLdField Json.isString))

def subject (value : Json) : Bool :=
  isRecord value && optional value "id" Json.isString

def renderMethod (value : Json) : Bool :=
  isRecord value && optional value "id" Json.isString &&
    required value "type" Json.isString && optional value "name" Json.isString &&
    optional value "css3MediaQuery" Json.isString

def credentialStatus (value : Json) : Bool :=
  isRecord value && required value "id" Json.isString &&
    required value "type" (jsonLdFieldAllowEmpty Json.isString) &&
    required value "statusPurpose" Json.isString &&
    required value "statusListIndex" (fun index => match index with
      | .str _ => true
      | .num _ => true
      | _ => false) &&
    required value "statusListCredential" Json.isString

/-- Both credential schemas, which differ only in the names of the two dates. -/
def credential (validFrom validUntil : String) (value : Json) : Bool :=
  isRecord value &&
  required value "@context" (isArrayOf Json.isString) &&
  optional value "id" Json.isString &&
  required value "type" (typeIncluding "VerifiableCredential") &&
  required value "issuer" issuer &&
  optional value validFrom Json.isString &&
  optional value validUntil Json.isString &&
  required value "credentialSubject" subject &&
  optional value "credentialStatus" (jsonLdFieldAllowEmpty credentialStatus) &&
  optional value "proof" proof &&
  optional value "name" Json.isString &&
  optional value "renderMethod" (isArrayOf renderMethod)

def credentialV1 : Json → Bool := credential "issuanceDate" "expirationDate"

def credentialV2 : Json → Bool := credential "validFrom" "validUntil"

end Schema

def zodRecord (members : List (String × Json)) : List (String × Json) :=
  members.filter fun entry => entry.1 ≠ "__proto__"

/-! ## Problem details -/

def codeUrl (code : String) : String :=
  "https://www.w3.org/TR/vc-data-model#" ++ code

def parsingError : String := "PARSING_ERROR"

def malformedValueError : String := "MALFORMED_VALUE_ERROR"

def makeProblemDetail (code detail : String) : ProblemDetail where
  type := codeUrl code
  title := code
  detail := detail
  status := some 400

def cryptographicVerificationProblemDetail (detail : String) : ProblemDetail where
  type := codeUrl "CRYPTOGRAPHIC_SECURITY_ERROR"
  title := "CRYPTOGRAPHIC_SECURITY_ERROR"
  detail := detail
  status := some 401

/-! ## Presentations -/

def assertValidVerifiablePresentationStructure (value : Json) : Except Thrown Unit :=
  if Schema.verifiablePresentation value then .ok ()
  else .error (.http {
    status := 400
    message := "Invalid Verifiable Presentation"
    problemDetails := some [.schema "verifiablePresentation" value] })

theorem assertValid_eq_ok {value : Json} {result : Unit} :
    assertValidVerifiablePresentationStructure value = .ok result ↔
      Schema.verifiablePresentation value = true := by
  simp [assertValidVerifiablePresentationStructure]

def extractHolderDid (vp : Json) : Option String :=
  match vp.field "holder" with
  | some (.str holder) => some holder
  | some holder => (holder.field "id").bind Json.asString?
  | none => none

/-! ## Credentials -/

inductive CredentialVersion
  | v1
  | v2
deriving DecidableEq

def credentialContextV1 : String := "https://www.w3.org/2018/credentials/v1"

def credentialContextV2 : String := "https://www.w3.org/ns/credentials/v2"

def detectCredentialVersion (vc : Json) : Except String CredentialVersion :=
  if !vc.isObjectLike then .error "Credential must be an object"
  else
    match vc.field "@context" with
    | some (.arr contexts) =>
        if Json.includesText contexts credentialContextV2 then .ok .v2
        else if Json.includesText contexts credentialContextV1 then .ok .v1
        else .error "Unsupported VC Data Model version"
    | some (.str _) => .error "@context must be an array"
    | _ => .error "@context is required and must be an array"

/-- The problems found in a credential; none when it is well formed. -/
def parseCredential (vc : Json) (location : String) : List Problem :=
  match detectCredentialVersion vc with
  | .error message =>
      [.detail (makeProblemDetail parsingError (location ++ ": " ++ message))]
  | .ok version =>
      let schema := match version with
        | .v2 => Schema.credentialV2
        | .v1 => Schema.credentialV1
      if schema vc then [] else [.schema location vc]

end TransactionService
