import TransactionService.Workflows.CreationSchema

namespace TransactionService.WorkflowSchemas

open Schema

/-! # The schemas of the workflows

`exchangeCreateSchemaVerify` and `exchangeCreateSchemaClaim` on a body as it was
sent, and on the data that the general schema has made of one. -/

/-! ## Bodies as they are sent -/

/-- An object without a member, which a schema that extends another declares
anew. -/
def withoutMember (name : String) : Json → Json
  | .obj members => .obj (members.filter fun entry => entry.1 ≠ name)
  | other => other

def verifyClaimSchema (value : Json) : Option DcqlClaim := do
  let id ← optionalMember value "id" Json.asString?
  let path ← requiredMember value "path" readTexts
  let values ← optionalMember value "values" readTexts
  return { id, path, values }

def readUrl (runtime : Runtime) (value : Json) : Option String :=
  value.asString?.filter runtime.isUrl

section

variable (runtime : Runtime) (now : Timestamp) (body : Json)

structure VerifyVariablesInput extends VariablesInput where
  contexts : List String
  credentialTypes : List String
  claims : List DcqlClaim

/-- `baseVariablesSchema.extend({ vprContext, vprCredentialType, ..., vprClaims })`. -/
def verifyVariablesSchema (value : Json) : Option VerifyVariablesInput := do
  -- Of the members declared anew only the claims are checked less strictly.
  let vars ← baseVariablesSchema runtime (withoutMember "vprClaims" value)
  let contexts ← requiredMember value "vprContext" (readArray (readUrl runtime))
  let credentialTypes ← requiredMember value "vprCredentialType" readTexts
  let claims ← requiredMember value "vprClaims" (readArray verifyClaimSchema)
  return { vars with contexts, credentialTypes, claims }

def exchangeCreateSchemaVerify : Except Thrown VerifyCreateData :=
  orZodError do
    let vars ← requiredMember body "variables" (verifyVariablesSchema runtime)
    let expires ← expiresSchema runtime now body
    let input : ExchangeCreateInput := { vars := vars.toVariablesInput, expires }
    return {
      toExchangeCreateData := input.createData input.vars.vcVariable
      vprContext := vars.contexts
      vprCredentialType := vars.credentialTypes
      trustedIssuers := vars.trustedIssuers
      trustedRegistries := vars.trustedRegistries
      vprClaims := vars.claims.map some }

/-- `baseVariablesSchema.extend({ subjectData, vc })`. -/
def claimVariablesSchema (value : Json) : Option VariablesInput := do
  let vars ← baseVariablesSchema runtime value
  let subjectData ← optionalMember value "subjectData" subjectDataSchema
  return { vars with subjectData }

def exchangeCreateSchemaClaim : Except Thrown ClaimCreateData :=
  orZodError do
    let vars ← requiredMember body "variables" (claimVariablesSchema runtime)
    let expires ← expiresSchema runtime now body
    let vc ← vars.vc
    let input : ExchangeCreateInput := { vars, expires }
    if isCredentialTemplate runtime vc then
      some {
        toExchangeCreateData := input.createData input.vars.vprVariables
        vc
        subjectData := vars.subjectData }
    else none

end

/-! ## The data of the first stage as a value -/

def textsJson (texts : List String) : Json :=
  .arr (texts.map Json.str)

def claimJson (claim : DcqlClaim) : Json :=
  .obj (definedMembers [("id", claim.id.map Json.str), ("path", some (textsJson claim.path)),
    ("values", claim.values.map textsJson)])

def optionsJson (options : VerifierOptions) : Json :=
  .obj (definedMembers [("verbose", options.verbose.map Json.bool),
    ("timing", options.timing.map Json.bool)])

def variableMembers (vars : VariablesInput) : List (String × Option Json) :=
  [("exchangeHost", some (.str vars.exchangeHost)),
    ("tenantName", vars.tenantName.map Json.str),
    ("batchId", vars.batchId.map Json.str),
    ("retrievalId", vars.retrievalId.map Json.str),
    ("metadata", vars.metadata),
    ("debug", vars.debug.map Json.bool),
    ("options", vars.options.map optionsJson),
    ("vc", vars.vc.map Json.str),
    ("subjectData", vars.subjectData),
    ("vprContext", vars.vprContext.map textsJson),
    ("vprCredentialType", vars.vprCredentialType.map textsJson),
    ("trustedIssuers", vars.trustedIssuers.map textsJson),
    ("trustedRegistries", vars.trustedRegistries.map textsJson),
    ("vprClaims", vars.vprClaims.map fun claims => .arr (claims.map claimJson))]

def variablesJson (vars : VariablesInput) : Json :=
  .obj (definedMembers (variableMembers vars))

def inputJson (input : ExchangeCreateInput) (expires : Option String) : Json :=
  .obj (definedMembers [("variables", some (variablesJson input.vars)),
    ("expires", expires.map Json.str)])

def Registered (vars : VariablesInput) : Prop :=
  ∀ claims, vars.vprClaims = some claims → ∀ claim ∈ claims,
    claim.id = none ∧ claim.values.isSome = true

/-! ## Reading parts of an object -/

theorem field_withoutMember {name other : String} (different : other ≠ name) (value : Json) :
    (withoutMember name value).field other = value.field other := by
  cases value with
  | obj members => exact lookup_filter_of_ne different members
  | _ => rfl

private theorem field_withoutMember_self (name : String) (value : Json) :
    (withoutMember name value).field name = none := by
  cases value with
  | obj members =>
      rw [withoutMember, Json.field, List.lookup_eq_none_iff]
      intro entry member
      have kept := of_decide_eq_true (List.mem_filter.mp member).2
      exact bne_iff_ne.mpr fun same => kept same.symm
  | _ => rfl

private theorem optionalMember_withoutMember {name other : String} (different : other ≠ name)
    (value : Json) (read : Json → Option α) :
    optionalMember (withoutMember name value) other read = optionalMember value other read := by
  rw [optionalMember, field_withoutMember different, optionalMember]

theorem mapM_agree {α β : Type} {read other : α → Option β} {holds : α → Prop}
    (agree : ∀ item value, read item = some value → (other item = some value ↔ holds item))
    {items : List α} {values : List β} (isRead : items.mapM read = some values) :
    items.mapM other = some values ↔ ∀ item ∈ items, holds item := by
  induction items generalizing values with
  | nil =>
      cases isRead
      simp
  | cons item rest induction =>
      rw [List.mapM_cons] at isRead
      rcases Option.bind_eq_some_iff.mp isRead with ⟨value, first, later⟩
      rcases Option.bind_eq_some_iff.mp later with ⟨others, isRest, same⟩
      cases same
      rw [List.forall_mem_cons, ← agree item value first, ← induction isRest, List.mapM_cons]
      constructor
      · intro both
        rcases Option.bind_eq_some_iff.mp both with ⟨found, isFound, afterFound⟩
        rcases Option.bind_eq_some_iff.mp afterFound with ⟨founds, isFounds, same⟩
        cases same
        exact ⟨isFound, isFounds⟩
      · rintro ⟨isFound, isFounds⟩
        simp [isFound, isFounds]

theorem mapM_forall {α β : Type} {read : α → Option β} {holds : β → Prop}
    (each : ∀ item value, read item = some value → holds value) {items : List α}
    {values : List β} (isRead : items.mapM read = some values) :
    ∀ value ∈ values, holds value := by
  induction items generalizing values with
  | nil =>
      cases isRead
      exact fun _ member => nomatch member
  | cons item rest induction =>
      rw [List.mapM_cons] at isRead
      rcases Option.bind_eq_some_iff.mp isRead with ⟨value, first, later⟩
      rcases Option.bind_eq_some_iff.mp later with ⟨others, isRest, same⟩
      cases same
      rw [List.forall_mem_cons]
      exact ⟨each item value first, induction isRest⟩

theorem readUrls {runtime : Runtime} {value : Json} {urls : List String}
    (isRead : readArray (readUrl runtime) value = some urls) :
    readTexts value = some urls ∧ urls.all runtime.isUrl = true := by
  cases value with
  | arr items =>
      constructor
      · refine (mapM_agree ?_ isRead).mpr fun _ _ => trivial
        intro item text found
        exact iff_of_true (Option.filter_eq_some_iff.mp found).1 trivial
      · have isUrl : ∀ item text, readUrl runtime item = some text →
            runtime.isUrl text = true :=
          fun item text found => (Option.filter_eq_some_iff.mp found).2
        rw [List.all_eq_true]
        exact mapM_forall isUrl isRead
  | _ => cases isRead

theorem optionalMember_of_required {α : Type} {value : Json} {name : String}
    {read : Json → Option α} {found : α} (isFound : requiredMember value name read = some found) :
    optionalMember value name read = some (some found) := by
  rcases Option.bind_eq_some_iff.mp isFound with ⟨member, isMember, isRead⟩
  rw [optionalMember, isMember]
  simp [isRead]

/-! ## What the schemas read -/

section

variable {runtime : Runtime} {now : Timestamp} {value body : Json}

theorem baseVariablesSchema_vprClaims (runtime : Runtime) (value : Json) :
    baseVariablesSchema runtime value = do
      let vars ← baseVariablesSchema runtime (withoutMember "vprClaims" value)
      let vprClaims ← optionalMember value "vprClaims" (readArray vprClaimSchema)
      return { vars with vprClaims } := by
  have isObject : isRecord (withoutMember "vprClaims" value) = isRecord value := by
    cases value <;> rfl
  have without : optionalMember (withoutMember "vprClaims" value) "vprClaims"
      (readArray vprClaimSchema) = some none := by
    rw [optionalMember, field_withoutMember_self]
  unfold baseVariablesSchema
  rw [isObject]
  cases isRecord value with
  | false => rfl
  | true =>
      simp only [Bool.not_true, Bool.false_eq_true, if_false]
      iterate 11
        rw [optionalMember_withoutMember (by decide), bind_assoc]
        refine bind_congr fun _ => ?_
      rw [without, field_withoutMember (by decide)]
      rfl

theorem baseVariablesSchema_reads {vars : VariablesInput}
    (isRead : baseVariablesSchema runtime value = some vars) :
    optionalMember value "tenantName" Json.asString? = some vars.tenantName ∧
      optionalMember value "vc" Json.asString? = some vars.vc ∧
      optionalMember value "vprContext" readTexts = some vars.vprContext ∧
      optionalMember value "vprCredentialType" readTexts = some vars.vprCredentialType ∧
      vars.subjectData = none := by
  unfold baseVariablesSchema at isRead
  split at isRead
  · cases isRead
  · rcases Option.bind_eq_some_iff.mp isRead with ⟨_, -, isRead⟩
    rcases Option.bind_eq_some_iff.mp isRead with ⟨tenantName, isTenantName, isRead⟩
    rcases Option.bind_eq_some_iff.mp isRead with ⟨_, -, isRead⟩
    rcases Option.bind_eq_some_iff.mp isRead with ⟨_, -, isRead⟩
    rcases Option.bind_eq_some_iff.mp isRead with ⟨_, -, isRead⟩
    rcases Option.bind_eq_some_iff.mp isRead with ⟨_, -, isRead⟩
    rcases Option.bind_eq_some_iff.mp isRead with ⟨vc, isVc, isRead⟩
    rcases Option.bind_eq_some_iff.mp isRead with ⟨vprContext, isContext, isRead⟩
    rcases Option.bind_eq_some_iff.mp isRead with ⟨credentialType, isType, isRead⟩
    rcases Option.bind_eq_some_iff.mp isRead with ⟨_, -, isRead⟩
    rcases Option.bind_eq_some_iff.mp isRead with ⟨_, -, isRead⟩
    rcases Option.bind_eq_some_iff.mp isRead with ⟨_, -, returned⟩
    cases returned
    exact ⟨isTenantName, isVc, isContext, isType, rfl⟩

theorem vprClaimSchema_agrees {item : Json} {claim : DcqlClaim}
    (isRead : verifyClaimSchema item = some claim) :
    vprClaimSchema item = some claim ↔
      item.field "id" = none ∧ (item.field "values").isSome = true := by
  rcases Option.bind_eq_some_iff.mp isRead with ⟨id, isId, afterId⟩
  rcases Option.bind_eq_some_iff.mp afterId with ⟨path, isPath, afterPath⟩
  rcases Option.bind_eq_some_iff.mp afterPath with ⟨values, isValues, same⟩
  cases same
  have noId : item.field "id" = none ↔ id = none := by
    unfold optionalMember at isId
    cases isField : item.field "id" with
    | none =>
        rw [isField] at isId
        simpa using isId.symm
    | some member =>
        rw [isField] at isId
        rcases Option.map_eq_some_iff.mp isId with ⟨text, -, rfl⟩
        simp
  unfold vprClaimSchema
  rw [isPath, noId, requiredMember]
  unfold optionalMember at isValues
  cases isField : item.field "values" with
  | none =>
      rw [isField] at isValues
      simp
  | some member =>
      rw [isField] at isValues
      rcases Option.map_eq_some_iff.mp isValues with ⟨texts, isTexts, rfl⟩
      simp [isTexts, eq_comm]

theorem expiresSchema_read {expires : Option Timestamp}
    (isExpires : expiresSchema runtime now body = some expires) :
    optionalMember body "expires" (fun text => text.asString?.bind runtime.parseDatetime) =
      some expires := by
  rcases Option.bind_eq_some_iff.mp isExpires with ⟨supplied, isSupplied, checked⟩
  split at checked
  · cases checked
    exact isSupplied
  · cases checked

/-! ## The second stage on the result of the first

The workflow's schema finds in the data what `validateExchangeVerify` and
`validateExchangeClaim` take it to find there. -/

theorem readArray_map {α : Type} {write : α → Json} {read : Json → Option α} {items : List α}
    (reads : ∀ item ∈ items, read (write item) = some item) :
    readArray read (.arr (items.map write)) = some items := by
  induction items with
  | nil => rfl
  | cons item rest induction =>
      rw [List.forall_mem_cons] at reads
      have onRest : (rest.map write).mapM read = some rest := induction reads.2
      simp [readArray, List.mapM_cons, reads.1, onRest]

theorem readTexts_textsJson (texts : List String) : readTexts (textsJson texts) = some texts :=
  readArray_map fun _ _ => rfl

private theorem optionsJson_reads (options : VerifierOptions) :
    verifierOptionsSchema (optionsJson options) = some options := by
  rcases options with ⟨verbose, timing⟩
  cases verbose <;> cases timing <;> rfl

theorem claimJson_reads {claim : DcqlClaim} (noId : claim.id = none)
    (hasValues : claim.values.isSome = true) :
    vprClaimSchema (claimJson claim) = some claim ∧
      verifyClaimSchema (claimJson claim) = some claim := by
  rcases claim with ⟨id, path, values⟩
  cases noId
  rcases Option.isSome_iff_exists.mp hasValues with ⟨texts, rfl⟩
  constructor
  · simp [vprClaimSchema, claimJson, definedMembers, requiredMember, Json.field,
      List.lookup_cons, readTexts_textsJson]
  · simp [verifyClaimSchema, claimJson, definedMembers, requiredMember, optionalMember,
      Json.field, List.lookup_cons, readTexts_textsJson]

variable {vars : VariablesInput}

theorem field_variablesJson (vars : VariablesInput) (name : String) :
    (variablesJson vars).field name = ((variableMembers vars).lookup name).join := by
  refine lookup_definedMembers ?_ name
  have names : (variableMembers vars).map Prod.fst = ["exchangeHost", "tenantName", "batchId",
    "retrievalId", "metadata", "debug", "options", "vc", "subjectData", "vprContext",
    "vprCredentialType", "trustedIssuers", "trustedRegistries", "vprClaims"] := rfl
  rw [names]
  decide

theorem optionalMember_variablesJson {α : Type} {name : String} {value : Option α}
    {write : α → Json} {read : Json → Option α}
    (isMember : (variableMembers vars).lookup name = some (value.map write))
    (reads : ∀ found, value = some found → read (write found) = some found) :
    optionalMember (variablesJson vars) name read = some value := by
  rw [optionalMember, field_variablesJson, isMember]
  cases value with
  | none => rfl
  | some found => simp [reads found rfl]

theorem baseVariablesSchema_variablesJson (runtime : Runtime) (registered : Registered vars) :
    baseVariablesSchema runtime (variablesJson vars) = some { vars with subjectData := none } := by
  have host : optionalMember (variablesJson vars) "exchangeHost" Json.asString? =
      some (some vars.exchangeHost) := by
    rw [optionalMember, field_variablesJson]
    rfl
  have tenantName : optionalMember (variablesJson vars) "tenantName" Json.asString? =
      some vars.tenantName := optionalMember_variablesJson rfl fun _ _ => rfl
  have batchId : optionalMember (variablesJson vars) "batchId" Json.asString? =
      some vars.batchId := optionalMember_variablesJson rfl fun _ _ => rfl
  have retrievalId : optionalMember (variablesJson vars) "retrievalId" Json.asString? =
      some vars.retrievalId := optionalMember_variablesJson rfl fun _ _ => rfl
  have debug : optionalMember (variablesJson vars) "debug" readBool = some vars.debug :=
    optionalMember_variablesJson rfl fun _ _ => rfl
  have options : optionalMember (variablesJson vars) "options" verifierOptionsSchema =
      some vars.options :=
    optionalMember_variablesJson rfl fun found _ => optionsJson_reads found
  have vc : optionalMember (variablesJson vars) "vc" Json.asString? = some vars.vc :=
    optionalMember_variablesJson rfl fun _ _ => rfl
  have vprContext : optionalMember (variablesJson vars) "vprContext" readTexts =
      some vars.vprContext :=
    optionalMember_variablesJson rfl fun found _ => readTexts_textsJson found
  have vprCredentialType : optionalMember (variablesJson vars) "vprCredentialType" readTexts =
      some vars.vprCredentialType :=
    optionalMember_variablesJson rfl fun found _ => readTexts_textsJson found
  have trustedIssuers : optionalMember (variablesJson vars) "trustedIssuers" readTexts =
      some vars.trustedIssuers :=
    optionalMember_variablesJson rfl fun found _ => readTexts_textsJson found
  have trustedRegistries : optionalMember (variablesJson vars) "trustedRegistries" readTexts =
      some vars.trustedRegistries :=
    optionalMember_variablesJson rfl fun found _ => readTexts_textsJson found
  have vprClaims : optionalMember (variablesJson vars) "vprClaims"
      (readArray vprClaimSchema) = some vars.vprClaims := by
    refine optionalMember_variablesJson rfl fun found isFound => readArray_map ?_
    intro claim member
    have fits := registered found isFound claim member
    exact (claimJson_reads fits.1 fits.2).1
  have metadata : (variablesJson vars).field "metadata" = vars.metadata := by
    rw [field_variablesJson]
    rfl
  have isObject : isRecord (variablesJson vars) = true := rfl
  unfold baseVariablesSchema
  rw [isObject, host, tenantName, batchId, retrievalId, debug, options, vc, vprContext,
    vprCredentialType, trustedIssuers, trustedRegistries, vprClaims, metadata]
  rfl

theorem expiresSchema_inputJson {input : ExchangeCreateInput} {expires : Option String}
    (isDate : expires.map runtime.parseDatetime = input.expires.map some) :
    expiresSchema runtime now (inputJson input expires) =
      if optionalFutureDate now input.expires then some input.expires else none := by
  have isRead : optionalMember (inputJson input expires) "expires"
      (fun text => text.asString?.bind runtime.parseDatetime) = some input.expires := by
    cases expires with
    | none =>
        cases isInput : input.expires with
        | none => rfl
        | some date => simp [isInput] at isDate
    | some text =>
        cases isInput : input.expires with
        | none => simp [isInput] at isDate
        | some date =>
            rw [isInput] at isDate
            have isText : (inputJson input (some text)).field "expires" = some (.str text) := rfl
            rw [optionalMember, isText]
            simpa [Json.asString?] using isDate
  rw [expiresSchema, isRead]
  rfl

private theorem readUrls_textsJson (runtime : Runtime) (texts : List String) :
    readArray (readUrl runtime) (textsJson texts) =
      if texts.all runtime.isUrl then some texts else none := by
  induction texts with
  | nil => rfl
  | cons text rest induction =>
      have onRest : (rest.map Json.str).mapM (readUrl runtime) =
          if rest.all runtime.isUrl then some rest else none := induction
      have first : readUrl runtime (.str text) =
          if runtime.isUrl text then some text else none := by
        rw [readUrl, Json.asString?, Option.filter_some]
      rw [textsJson, readArray, List.map_cons, List.mapM_cons, first, onRest, List.all_cons]
      cases runtime.isUrl text with
      | false => rfl
      | true => cases rest.all runtime.isUrl <;> rfl

/-- The schema of the claim workflow, applied to the data of the first stage. -/
private theorem claim_second_stage {input : ExchangeCreateInput} {expires : Option String}
    (registered : Registered input.vars)
    (isDate : expires.map runtime.parseDatetime = input.expires.map some) :
    exchangeCreateSchemaClaim runtime now (inputJson input expires) =
      validateExchangeClaim runtime now input := by
  have isVars : requiredMember (inputJson input expires) "variables"
      (claimVariablesSchema runtime) = claimVariablesSchema runtime (variablesJson input.vars) :=
    rfl
  have subject : (variablesJson input.vars).field "subjectData" = input.vars.subjectData := by
    rw [field_variablesJson]
    rfl
  unfold exchangeCreateSchemaClaim validateExchangeClaim
  rw [isVars, claimVariablesSchema, baseVariablesSchema_variablesJson runtime registered,
    expiresSchema_inputJson isDate, optionalMember, subject]
  cases input.vars.subjectData with
  | none =>
      cases input.vars.vc <;> cases optionalFutureDate now input.expires <;> rfl
  | some value =>
      simp only [Option.bind_eq_bind, Option.bind_some]
      cases subjectDataSchema value with
      | none => cases input.vars.vc <;> rfl
      | some kept =>
          cases input.vars.vc <;> cases optionalFutureDate now input.expires <;> rfl

/-- The schema of the verify workflow, applied to the data of the first stage. -/
private theorem verify_second_stage {input : ExchangeCreateInput} {expires : Option String}
    (registered : Registered input.vars)
    (isDate : expires.map runtime.parseDatetime = input.expires.map some) :
    exchangeCreateSchemaVerify runtime now (inputJson input expires) =
      validateExchangeVerify runtime now input := by
  have isVars : requiredMember (inputJson input expires) "variables"
      (verifyVariablesSchema runtime) =
      verifyVariablesSchema runtime (variablesJson input.vars) := rfl
  have isBase := baseVariablesSchema_vprClaims runtime (variablesJson input.vars)
  rw [baseVariablesSchema_variablesJson runtime registered] at isBase
  rcases Option.bind_eq_some_iff.mp isBase.symm with ⟨others, isOthers, afterOthers⟩
  rcases Option.bind_eq_some_iff.mp afterOthers with ⟨claims, -, same⟩
  rcases others with ⟨_, _, _, _, _, _, _, _, _, _, _, _, _, _⟩
  cases same
  have required : ∀ {α : Type} (name : String) (write : α → Json) (value : Option α)
      (read : Json → Option α),
      (variableMembers input.vars).lookup name = some (value.map write) →
      requiredMember (variablesJson input.vars) name read =
        value.bind fun found => read (write found) := by
    intro α name write value read isMember
    rw [requiredMember, field_variablesJson, isMember]
    cases value <;> rfl
  have claimsRead : requiredMember (variablesJson input.vars) "vprClaims"
      (readArray verifyClaimSchema) = input.vars.vprClaims := by
    rw [required "vprClaims" (fun claims => .arr (claims.map claimJson)) input.vars.vprClaims
      _ rfl]
    cases isClaims : input.vars.vprClaims with
    | none => rfl
    | some claims =>
        refine readArray_map fun claim member => ?_
        have fits := registered claims isClaims claim member
        exact (claimJson_reads fits.1 fits.2).2
  unfold exchangeCreateSchemaVerify validateExchangeVerify
  rw [isVars, verifyVariablesSchema, isOthers, claimsRead,
    required "vprContext" textsJson input.vars.vprContext _ rfl,
    required "vprCredentialType" textsJson input.vars.vprCredentialType _ rfl,
    expiresSchema_inputJson isDate]
  simp only [readUrls_textsJson, readTexts_textsJson]
  cases input.vars.vprContext with
  | none => rfl
  | some contexts =>
      simp only [Option.bind_eq_bind, Option.bind_some]
      cases input.vars.vprCredentialType with
      | none => cases contexts.all runtime.isUrl <;> rfl
      | some credentialTypes =>
          cases input.vars.vprClaims with
          | none => cases contexts.all runtime.isUrl <;> rfl
          | some claims =>
              cases contexts.all runtime.isUrl <;>
                cases optionalFutureDate now input.expires <;> rfl

private theorem registered_of_read (isRead : baseVariablesSchema runtime value = some vars) :
    Registered vars := by
  rw [baseVariablesSchema_vprClaims] at isRead
  rcases Option.bind_eq_some_iff.mp isRead with ⟨others, -, afterOthers⟩
  rcases Option.bind_eq_some_iff.mp afterOthers with ⟨vprClaims, isClaims, same⟩
  cases same
  rintro claims rfl
  unfold optionalMember at isClaims
  split at isClaims
  · cases isClaims
  · rename_i member _
    rcases Option.map_eq_some_iff.mp isClaims with ⟨found, isArray, same⟩
    cases same
    cases member with
    | arr items =>
        refine mapM_forall ?_ isArray
        intro item claim isClaim
        rcases Option.bind_eq_some_iff.mp isClaim with ⟨path, -, afterPath⟩
        rcases Option.bind_eq_some_iff.mp afterPath with ⟨values, -, same⟩
        cases same
        exact ⟨rfl, rfl⟩
    | _ => cases isArray

/-- What the route hands on to a workflow is what the workflow's schema reads in
it, whatever the tenant. -/
theorem second_stage_reads {earlier : Timestamp} {input : ExchangeCreateInput}
    (parsed : vcApiExchangeCreateSchema runtime earlier body = .ok input)
    (now : Timestamp) (tenantName : Option String) :
    ∃ expires,
      exchangeCreateSchemaVerify runtime now
          (inputJson { input with vars := { input.vars with tenantName } } expires) =
        validateExchangeVerify runtime now
          { input with vars := { input.vars with tenantName } } ∧
      exchangeCreateSchemaClaim runtime now
          (inputJson { input with vars := { input.vars with tenantName } } expires) =
        validateExchangeClaim runtime now
          { input with vars := { input.vars with tenantName } } := by
  rcases Option.bind_eq_some_iff.mp (orZodError_eq_ok.mp parsed) with ⟨vars, isVars, later⟩
  rcases Option.bind_eq_some_iff.mp later with ⟨date, isDate, same⟩
  cases same
  rcases Option.bind_eq_some_iff.mp isVars with ⟨value, -, isRead⟩
  have readVars : Registered vars := registered_of_read isRead
  have registered : Registered { vars with tenantName } := readVars
  have written : ∃ expires : Option String,
      expires.map runtime.parseDatetime = date.map some := by
    have isSupplied := expiresSchema_read isDate
    unfold optionalMember at isSupplied
    split at isSupplied
    · cases isSupplied
      exact ⟨none, rfl⟩
    · rcases Option.map_eq_some_iff.mp isSupplied with ⟨found, isFound, rfl⟩
      rcases Option.bind_eq_some_iff.mp isFound with ⟨text, -, isParsed⟩
      exact ⟨some text, congrArg some isParsed⟩
  rcases written with ⟨expires, isText⟩
  exact ⟨expires, verify_second_stage registered isText, claim_second_stage registered isText⟩

end

end TransactionService.WorkflowSchemas
