import TransactionService.Oid4vci.Handlers
import TransactionService.Workflows.WorkflowSchemas

namespace TransactionService.ConfigurationIds

open Fallible Schema WorkflowSchemas

/-! # Credential configuration ids

The id of the one credential configuration of an exchange, in its credential offer,
in its issuer metadata and in the requests that name it. -/

/-! ## Issuer metadata -/

def defaultDiAlgValues : List String := ["eddsa-rdfc-2022"]

def defaultVcContext : List String :=
  ["https://www.w3.org/ns/credentials/v2",
    "https://purl.imsglobal.org/spec/ob/v3p0/context-3.0.3.json"]

def arrayOfStrings (value : Option Json) : List String :=
  match value with
  | none => []
  | some value => if value.isTruthy then value.arrayOf.filterMap Json.asString? else []

def orDefault (texts fallback : List String) : List String :=
  if texts.isEmpty then fallback else texts

section

variable (runtime : Runtime) (config : Config) (exchange : ExchangeDetailClaim)

def cryptosuitesForTenant : List String :=
  let tenant := config.tenants.lookup (runtime.toLowerCase exchange.tenantName)
  let cryptosuites := ((tenant.bind (·.issuerInstances)).getD []).map (·.cryptosuite)
  orDefault cryptosuites defaultDiAlgValues

/-- Reading a member off a template that is the JSON value `null` throws. -/
def buildSupportedConfiguration : Except Thrown Json :=
  let supported := fun template : Json =>
    let types := orDefault (arrayOfStrings (template.field "type")) ["VerifiableCredential"]
    let contexts := orDefault (arrayOfStrings (template.field "@context")) defaultVcContext
    let algValues := textsJson (cryptosuitesForTenant runtime config exchange)
    Json.obj [
      ("format", .str "ldp_vc"),
      ("credential_definition", .obj [("@context", textsJson contexts),
        ("type", textsJson types)]),
      ("cryptographic_binding_methods_supported", textsJson ["did"]),
      ("credential_signing_alg_values_supported", algValues),
      ("proof_types_supported", .obj [
        ("di_vp", .obj [("proof_signing_alg_values_supported", algValues)])])]
  match runtime.parseJson exchange.vars.vc with
  | none => .ok (supported (.obj []))
  | some .null => .error (.error "Cannot read properties of null")
  | some template => .ok (supported template)

def buildIssuerMetadata : Except Thrown Json := do
  let issuer := exchangeUrl (.claim exchange)
  let configId ← deriveCredentialConfigurationId runtime exchange.vars.vc
  let supported ← buildSupportedConfiguration runtime config exchange
  return .obj [
    ("credential_issuer", .str issuer),
    ("authorization_servers", textsJson [issuer]),
    ("credential_endpoint", .str (issuer ++ "/openid/credential")),
    ("nonce_endpoint", .str (issuer ++ "/openid/nonce")),
    ("credential_configurations_supported", .obj [(configId, supported)])]

end

/-! ## Schemas -/

section

variable (runtime : Runtime)

/-- `z.string().url()`. -/
def isUrlText : Json → Bool
  | .str text => runtime.isUrl text
  | _ => false

def preAuthorizedGrantParamsSchema (value : Json) : Bool :=
  isRecord value && required value "pre-authorized_code" isNonemptyText

def credentialOfferSchema (value : Json) : Bool :=
  isRecord value &&
  required value "credential_issuer" (isUrlText runtime) &&
  required value "credential_configuration_ids" (isNonemptyArrayOf isNonemptyText) &&
  required value "grants" fun grants =>
    isRecord grants && required grants preAuthorizedGrant preAuthorizedGrantParamsSchema

def credentialDefinitionSchema (value : Json) : Bool :=
  isRecord value &&
  required value "@context" (isNonemptyArrayOf Json.isString) &&
  required value "type" (isNonemptyArrayOf Json.isString)

def proofTypesSchema (value : Json) : Bool :=
  isRecord value &&
  optional value "di_vp" fun diVp =>
    isRecord diVp &&
    required diVp "proof_signing_alg_values_supported" (isNonemptyArrayOf Json.isString)

def credentialConfigurationSupportedSchema (value : Json) : Bool :=
  isRecord value &&
  required value "format" (·.isText "ldp_vc") &&
  required value "credential_definition" credentialDefinitionSchema &&
  optional value "cryptographic_binding_methods_supported" (isArrayOf Json.isString) &&
  optional value "credential_signing_alg_values_supported" (isArrayOf Json.isString) &&
  optional value "proof_types_supported" proofTypesSchema

/-- `z.record(z.string(), item)`. -/
def isRecordOf (item : Json → Bool) : Json → Bool
  | .obj members => members.all fun entry => item entry.2
  | _ => false

def issuerMetadataSchema (value : Json) : Bool :=
  isRecord value &&
  required value "credential_issuer" (isUrlText runtime) &&
  required value "authorization_servers" (isNonemptyArrayOf (isUrlText runtime)) &&
  required value "credential_endpoint" (isUrlText runtime) &&
  required value "nonce_endpoint" (isUrlText runtime) &&
  required value "credential_configurations_supported"
    (isRecordOf credentialConfigurationSupportedSchema)

end

/-! ## One id at every endpoint -/

def errorOf (response : Response) : Option String :=
  match response.body with
  | .json value => (value.field "error").bind Json.asString?
  | .exchange _ => none

structure Names (configId : String) (body : Json) : Prop where
  configuration : body.field "credential_configuration_id" = some (.str configId)
  proofs : ∃ proofs first rest, body.field "proofs" = some proofs ∧
    proofs.field "di_vp" = some (.arr (.obj first :: rest)) ∧ rest.all isRecord = true

section

variable (runtime : Runtime) (config : Config) (answers : Answers)
  (exchange : ExchangeDetailClaim)

def offered : ExchangeDetailClaim :=
  (ensurePreAuthorizedCode answers exchange (codeTtlSec answers exchange)).1

/-- What the endpoints of an exchange have to do with a configuration. Requests
come later, when the exchange may have changed in all but its template. -/
structure Offers (configId : String) : Prop where
  offer : ∃ offer, buildCredentialOffer runtime (offered answers exchange) = .ok offer ∧
    credentialOfferSchema runtime offer = true ∧
    offer.field "credential_configuration_ids" = some (.arr [.str configId])
  metadata : ∃ metadata supported,
    buildIssuerMetadata runtime config exchange = .ok metadata ∧
    issuerMetadataSchema runtime metadata = true ∧
    metadata.field "credential_configurations_supported" =
      some (.obj [(configId, supported)])
  requests : ∀ (later : ExchangeDetailClaim) (answers : Answers) (workflow : Workflow)
    (accessToken : Option String) (body : Json) (response : Response),
    later.vars.vc = exchange.vars.vc → Names configId body →
    (handleCredentialRequest runtime config answers accessToken body later workflow).result =
      .ok response →
    errorOf response ≠ some "invalid_credential_request" ∧
      errorOf response ≠ some "unknown_credential_configuration"

/-! ## When the id can be used -/

/-- The first text among the types of the template that is not the base type, if
there is one, is not empty. -/
def TypeFits : Prop :=
  ∀ template types, runtime.parseJson exchange.vars.vc = some template →
    template.field "type" = some (.arr types) →
    (types.filterMap Json.asString?).find? (· ≠ "VerifiableCredential") ≠ some ""

structure UrlsFit : Prop where
  issuer : runtime.isUrl (exchangeUrl (.claim exchange)) = true
  credential : runtime.isUrl (exchangeUrl (.claim exchange) ++ "/openid/credential") = true
  nonce : runtime.isUrl (exchangeUrl (.claim exchange) ++ "/openid/nonce") = true

end

section

variable {runtime : Runtime} {config : Config} {answers : Answers}
  {exchange : ExchangeDetailClaim}

theorem template_type (template : isCredentialTemplate runtime exchange.vars.vc = true) :
    ∃ data type, runtime.parseJson exchange.vars.vc = some data ∧
      data.field "type" = some type ∧ .str "VerifiableCredential" ∈ type.arrayOf := by
  unfold isCredentialTemplate at template
  cases isData : runtime.parseJson exchange.vars.vc with
  | none =>
      rw [isData] at template
      cases template
  | some data =>
      rw [isData] at template
      rcases (Option.any_eq_true ..).mp template with ⟨type, isType, includes⟩
      exact ⟨data, type, rfl, isType, Json.includesText_iff.mp includes⟩

theorem typeFits_iff {data type : Json} (isData : runtime.parseJson exchange.vars.vc = some data)
    (isType : data.field "type" = some type) :
    TypeFits runtime exchange ↔ ∀ types, type = .arr types →
      (types.filterMap Json.asString?).find? (· ≠ "VerifiableCredential") ≠ some "" := by
  constructor
  · intro fits types same
    exact fits _ types isData (isType.trans (congrArg some same))
  · intro fits _ types sameData sameType
    cases isData.symm.trans sameData
    exact fits types (Option.some.inj (isType.symm.trans sameType))

theorem configId_iff (template : isCredentialTemplate runtime exchange.vars.vc = true)
    {configId : String}
    (derived : deriveCredentialConfigurationId runtime exchange.vars.vc = .ok configId) :
    configId ≠ "" ↔ TypeFits runtime exchange := by
  rcases template_type template with ⟨data, type, isData, isType, includes⟩
  have isObject : ∃ members, data = .obj members := by
    cases data with
    | obj members => exact ⟨members, rfl⟩
    | _ => cases isType
  rcases isObject with ⟨members, rfl⟩
  unfold deriveCredentialConfigurationId at derived
  simp only [isData, isType] at derived
  rw [typeFits_iff isData isType]
  cases type with
  | arr types =>
      simp only at derived
      cases isFound : (types.filterMap Json.asString?).find?
          (· ≠ "VerifiableCredential") with
      | none =>
          rw [isFound] at derived
          cases derived
          refine iff_of_true (by decide) ?_
          intro _ same
          cases same
          rw [isFound]
          exact fun impossible => nomatch impossible
      | some nonBase =>
          rw [isFound] at derived
          cases derived
          constructor
          · intro nonempty _ same
            cases same
            rw [isFound]
            exact fun empty => nonempty (Option.some.inj empty)
          · intro fits empty
            exact fits types rfl (isFound.trans (congrArg some empty))
  | str text =>
      have same : text = "VerifiableCredential" := by
        simpa [Json.arrayOf, eq_comm] using includes
      subst same
      cases derived
      simp
  | _ => simp [Json.arrayOf] at includes

/-! ## What the endpoints send -/

private theorem offered_code (text : answers.randomBytes ≠ "") :
    (offered answers exchange).vars.vc = exchange.vars.vc ∧
      exchangeUrl (.claim (offered answers exchange)) = exchangeUrl (.claim exchange) ∧
      ∃ code ≠ "", Text.given (oid4vciState (offered answers exchange)).preAuthorizedCode =
        some code := by
  unfold offered ensurePreAuthorizedCode
  split
  · rename_i code isCurrent
    refine ⟨rfl, rfl, code, ?_⟩
    unfold currentCode at isCurrent
    dsimp only at isCurrent
    split at isCurrent
    · cases isCurrent
    · have nonempty := (Option.filter_eq_some_iff.mp isCurrent).2
      exact ⟨of_decide_eq_true nonempty, isCurrent⟩
  · exact ⟨rfl, rfl, answers.randomBytes, text, Text.given_some text⟩

theorem offer_iff (text : answers.randomBytes ≠ "") {configId : String}
    (derived : deriveCredentialConfigurationId runtime exchange.vars.vc = .ok configId) :
    ∃ offer, buildCredentialOffer runtime (offered answers exchange) = .ok offer ∧
      offer.field "credential_configuration_ids" = some (.arr [.str configId]) ∧
      (credentialOfferSchema runtime offer = true ↔
        runtime.isUrl (exchangeUrl (.claim exchange)) = true ∧ configId ≠ "") := by
  rcases offered_code text with ⟨sameTemplate, sameUrl, code, nonempty, isGiven⟩
  unfold buildCredentialOffer
  rw [isGiven, sameTemplate, sameUrl]
  simp only [derived]
  refine ⟨_, rfl, rfl, ?_⟩
  simp [credentialOfferSchema, preAuthorizedGrantParamsSchema, isRecord, required, Json.field,
    List.lookup_cons, isUrlText, isNonemptyArrayOf, isArrayOf, Json.arrayOf, isNonemptyText,
    nonempty]

theorem orDefault_nonempty {texts fallback : List String} (nonempty : fallback ≠ []) :
    isNonemptyArrayOf Json.isString (textsJson (orDefault texts fallback)) = true := by
  have isText : ∀ list : List String, list ≠ [] →
      isNonemptyArrayOf Json.isString (textsJson list) = true := by
    intro list isNonempty
    simpa [isNonemptyArrayOf, isArrayOf, textsJson, Json.arrayOf, Json.isString, Json.asString?]
      using isNonempty
  apply isText
  unfold orDefault
  split
  · exact nonempty
  · rename_i given
    simpa using given

private theorem supportedConfiguration_fits (config : Config)
    (template : isCredentialTemplate runtime exchange.vars.vc = true) :
    ∃ supported, buildSupportedConfiguration runtime config exchange = .ok supported ∧
      credentialConfigurationSupportedSchema supported = true := by
  rcases template_type template with ⟨data, type, isData, isType, -⟩
  have algValues : isNonemptyArrayOf Json.isString
      (textsJson (cryptosuitesForTenant runtime config exchange)) = true :=
    orDefault_nonempty (by decide)
  have algTexts : isArrayOf Json.isString
      (textsJson (cryptosuitesForTenant runtime config exchange)) = true :=
    (Bool.and_eq_true ..).mp algValues |>.1
  have methods : isArrayOf Json.isString (textsJson ["did"]) = true := by decide
  have types : ∀ texts, isNonemptyArrayOf Json.isString
      (textsJson (orDefault texts ["VerifiableCredential"])) = true :=
    fun _ => orDefault_nonempty (by decide)
  have contexts : ∀ texts, isNonemptyArrayOf Json.isString
      (textsJson (orDefault texts defaultVcContext)) = true :=
    fun _ => orDefault_nonempty (by decide)
  unfold buildSupportedConfiguration
  cases data with
  | obj members =>
      rw [isData]
      refine ⟨_, rfl, ?_⟩
      simp [credentialConfigurationSupportedSchema, credentialDefinitionSchema,
        proofTypesSchema, isRecord, required, Schema.optional, Json.field, List.lookup_cons,
        algValues, algTexts, methods, types, contexts]
  | _ => cases isType

theorem metadata_iff (config : Config)
    (template : isCredentialTemplate runtime exchange.vars.vc = true)
    {configId : String}
    (derived : deriveCredentialConfigurationId runtime exchange.vars.vc = .ok configId) :
    ∃ metadata supported, buildIssuerMetadata runtime config exchange = .ok metadata ∧
      metadata.field "credential_configurations_supported" =
        some (.obj [(configId, supported)]) ∧
      (issuerMetadataSchema runtime metadata = true ↔ UrlsFit runtime exchange) := by
  rcases supportedConfiguration_fits config template with ⟨supported, built, fits⟩
  unfold buildIssuerMetadata
  simp only [derived, built]
  refine ⟨_, supported, rfl, rfl, ?_⟩
  have parts : UrlsFit runtime exchange ↔
      runtime.isUrl (exchangeUrl (.claim exchange)) = true ∧
      runtime.isUrl (exchangeUrl (.claim exchange) ++ "/openid/credential") = true ∧
      runtime.isUrl (exchangeUrl (.claim exchange) ++ "/openid/nonce") = true :=
    ⟨fun urls => ⟨urls.1, urls.2, urls.3⟩, fun urls => ⟨urls.1, urls.2.1, urls.2.2⟩⟩
  rw [parts]
  simp [issuerMetadataSchema, isRecord, isRecordOf, required, Json.field, List.lookup_cons,
    isUrlText, isNonemptyArrayOf, isArrayOf, Json.arrayOf, textsJson, fits, and_assoc]

/-! ## Requests that name the configuration -/

section

variable {workflow : Workflow} {body : Json} {response : Response}

def Misnamed (response : Response) : Prop :=
  errorOf response = some "invalid_credential_request" ∨
    errorOf response = some "unknown_credential_configuration"

theorem errorOf_errorResponse (status : Nat) (error description : String) :
    errorOf (errorResponse status error description) = some error :=
  rfl

private theorem issueToHolder_named {vp : Json} {working : ExchangeDetailClaim}
    {didAuthResult : DidAuthVerificationResult}
    (answered : (issueToHolder runtime config answers vp working workflow
      didAuthResult).result = .ok response) :
    ¬ Misnamed response := by
  unfold issueToHolder at answered
  split at answered
  · cases answered
    simp [Misnamed, errorOf_errorResponse]
  · cases answered
    simp [Misnamed, errorOf_errorResponse]
  · split at answered
    · cases answered
      simp [Misnamed, errorOf_errorResponse]
    · rcases Action.result_bind answered with ⟨signed, -, responds⟩
      split at responds
      · cases responds
        simp [Misnamed, errorOf_errorResponse]
      · cases responds
        simp [Misnamed, errorOf, json, Json.field, List.lookup_cons]

private theorem handleKeyProof_named {request : CredentialRequest}
    (derived : deriveCredentialConfigurationId runtime exchange.vars.vc =
      .ok request.credentialConfigurationId)
    (answered : (handleKeyProof runtime config answers request exchange workflow).result =
      .ok response) :
    ¬ Misnamed response := by
  unfold handleKeyProof at answered
  rw [derived, Action.ofExcept_ok_bind, if_neg (not_not.mpr rfl)] at answered
  rcases Action.result_bind answered with ⟨challenge, -, afterChallenge⟩
  split at afterChallenge
  · cases afterChallenge
    simp [Misnamed, errorOf_errorResponse]
  · split at afterChallenge
    · cases afterChallenge
      simp [Misnamed, errorOf_errorResponse]
    · rcases Action.result_bind afterChallenge with ⟨didAuthResult, -, issues⟩
      exact issueToHolder_named issues

private theorem parseCredentialRequest_named {configId : String} (nonempty : configId ≠ "")
    (names : Names configId body) :
    ∃ request, parseCredentialRequest body = some request ∧
      request.credentialConfigurationId = configId := by
  rcases names with ⟨configuration, proofs, first, rest, isProofs, isDiVp, records⟩
  unfold parseCredentialRequest
  simp only [configuration, isProofs, isDiVp, records, Option.bind_eq_bind, Option.bind_some,
    Json.asString?, if_neg nonempty, if_true]
  exact ⟨_, rfl, rfl⟩

private theorem request_named {configId : String} {accessToken : Option String}
    (nonempty : configId ≠ "") (names : Names configId body)
    (derived : deriveCredentialConfigurationId runtime exchange.vars.vc = .ok configId)
    (answered : (handleCredentialRequest runtime config answers accessToken body exchange
      workflow).result = .ok response) :
    ¬ Misnamed response := by
  rcases parseCredentialRequest_named nonempty names with ⟨request, isRequest, rfl⟩
  unfold handleCredentialRequest at answered
  split at answered
  · cases answered
    simp [Misnamed, errorOf_errorResponse]
  · split at answered
    · cases answered
      simp [Misnamed, errorOf_errorResponse]
    · split at answered
      · cases answered
        simp [Misnamed, errorOf_errorResponse]
      · rw [isRequest] at answered
        exact handleKeyProof_named derived answered

end

/-- The id of an exchange means the same to the endpoints exactly when it is not
empty and what they send as URLs are URLs. -/
theorem configuration_consistent_iff (config : Config)
    (template : isCredentialTemplate runtime exchange.vars.vc = true)
    (text : answers.randomBytes ≠ "") :
    (∃ configId, Offers runtime config answers exchange configId) ↔
      TypeFits runtime exchange ∧ UrlsFit runtime exchange := by
  rcases deriveCredentialConfigurationId_ok template with ⟨configId, derived⟩
  rcases offer_iff text derived with ⟨offer, isOffer, offersId, offerFits⟩
  rcases metadata_iff config template derived with
    ⟨metadata, supported, isMetadata, supportsId, metadataFits⟩
  rw [← configId_iff template derived]
  constructor
  · rintro ⟨_, offers⟩
    rcases offers.offer with ⟨_, sameOffer, isFitting, -⟩
    rcases offers.metadata with ⟨_, _, sameMetadata, alsoFitting, -⟩
    cases isOffer.symm.trans sameOffer
    cases isMetadata.symm.trans sameMetadata
    exact ⟨(offerFits.mp isFitting).2, metadataFits.mp alsoFitting⟩
  · rintro ⟨nonempty, urls⟩
    refine ⟨configId, ⟨offer, isOffer, offerFits.mpr ⟨urls.issuer, nonempty⟩, offersId⟩,
      ⟨metadata, supported, isMetadata, metadataFits.mpr urls, supportsId⟩, ?_⟩
    intro later _ _ _ _ _ sameTemplate names answered
    rw [← sameTemplate] at derived
    exact not_or.mp (request_named nonempty names derived answered)

/-! ## A type that is the empty text -/

def typedRuntime (other : String) : Runtime :=
  { Runtime.plain with
    parseJson := fun _ => some (.obj [
      ("type", .arr [.str "VerifiableCredential", .str other])]) }

def typedExchange : ExchangeDetailClaim :=
  createExchangeClaim {} Answers.plain {
    exchangeHost := "http://localhost:4004"
    vc := "template" }

theorem badge_consistent :
    ∃ configId, Offers (typedRuntime "OpenBadgeCredential") {} Answers.plain typedExchange
      configId := by
  refine (configuration_consistent_iff {} rfl (by decide)).mpr ⟨?_, by decide, by decide,
    by decide⟩
  intro _ _ isTemplate isType
  cases isTemplate
  cases isType
  decide

/-- The template is accepted; the offer, whose id is empty, does not fit its schema. -/
theorem empty_type_inconsistent :
    Succeeds (validateExchangeClaim (typedRuntime "") 0 {
        vars := { exchangeHost := "http://localhost:4004", vc := some "template" } }) ∧
      UrlsFit (typedRuntime "") typedExchange ∧
      ¬ ∃ configId, Offers (typedRuntime "") {} Answers.plain typedExchange configId := by
  refine ⟨⟨_, rfl⟩, ⟨by decide, by decide, by decide⟩, ?_⟩
  rintro ⟨configId, offers⟩
  rcases offers.offer with ⟨offer, isOffer, isFitting, -⟩
  cases isOffer
  have unfit : credentialOfferSchema (typedRuntime "") (.obj [
      ("credential_issuer", .str (exchangeUrl (.claim typedExchange))),
      ("credential_configuration_ids", .arr [.str ""]),
      ("grants", .obj [(preAuthorizedGrant,
        .obj [("pre-authorized_code", .str "random")])])]) = false := by decide
  cases unfit.symm.trans isFitting

end

end TransactionService.ConfigurationIds
