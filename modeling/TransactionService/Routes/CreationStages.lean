import TransactionService.Routes.CreationExpiry
import TransactionService.Workflows.WorkflowSchemas

namespace TransactionService.CreationStages

open Fallible Schema WorkflowSchemas

/-! # The two stages of a creation request

A body that reaches a workflow has been through the general schema, which keeps
only what it declares itself. The schemas of the workflows are compared with what
becomes of a body on the way through both stages. -/

/-! ## Agreement of the stages -/

def bodyVariable (body : Json) (name : String) : Option Json :=
  (body.field "variables").bind fun vars => vars.field name

section

variable (runtime : Runtime) (config : Config) (answers : Answers) (now : Timestamp)
  (authorization : Option String) (body : Json)

/-- What the verify workflow accepts by itself, the route makes an exchange of,
with the same variables but for the tenant. -/
def VerifyStagesAgree : Prop :=
  ∀ data, exchangeCreateSchemaVerify runtime now body = .ok data → ∃ tenantName,
    createdByRequest runtime config answers "verify" authorization (some body) =
      .ok (createExchange config (answers.skip 2 0 0)
        (.verify { data with tenantName }))

def ClaimStagesAgree : Prop :=
  ∀ data, exchangeCreateSchemaClaim runtime now body = .ok data → ∃ tenantName,
    createdByRequest runtime config answers "claim" authorization (some body) =
      .ok (createExchange config (answers.skip 2 0 0)
        (.claim { data with tenantName }))

/-- The caller may create exchanges for the tenant it asks for, and a date that it
asks for passes the check of each stage. -/
structure Admitted : Prop where
  tenant : ∃ authTenant tenantName,
    authenticateTenantMiddleware runtime config authorization = .ok authTenant ∧
      resolveExchangeTenant ((bodyVariable body "tenantName").bind Json.asString?) authTenant
        config.defaultTenantName = .ok tenantName
  first : optionalFutureDate (answers.clock 0) (CreationExpiry.suppliedExpires runtime body) =
    true
  second : optionalFutureDate (answers.clock 1) (CreationExpiry.suppliedExpires runtime body) =
    true

def ClaimsAsRegistered : Prop :=
  ∀ items, bodyVariable body "vprClaims" = some (.arr items) → ∀ item ∈ items,
    item.field "id" = none ∧ (item.field "values").isSome = true

end

section

variable {runtime : Runtime} {config : Config} {answers : Answers} {now : Timestamp}
  {workflowId : String} {authorization : Option String} {value body : Json}
  {exchange : Exchange}

/-! ## The route, part by part -/

theorem expiresSchema_reads {expires : Option Timestamp}
    (isExpires : expiresSchema runtime now body = some expires) :
    CreationExpiry.suppliedExpires runtime body = expires ∧ ∀ time,
      expiresSchema runtime time body =
        if optionalFutureDate time expires then some expires else none := by
  have isSupplied := expiresSchema_read isExpires
  refine ⟨?_, fun time => ?_⟩
  · unfold optionalMember at isSupplied
    unfold CreationExpiry.suppliedExpires
    cases isField : body.field "expires" with
    | none =>
        rw [isField] at isSupplied
        exact Option.some.inj isSupplied
    | some text =>
        rw [isField] at isSupplied
        rcases Option.map_eq_some_iff.mp isSupplied with ⟨date, isDate, rfl⟩
        exact isDate
  · rw [expiresSchema, isSupplied]
    rfl

theorem createdByRequest_eq_ok (isValue : body.field "variables" = some value)
    {expires : Option Timestamp} (isExpires : expiresSchema runtime now body = some expires)
    (isWorkflow : addWorkflowByParam workflowId = .ok ()) :
    createdByRequest runtime config answers workflowId authorization (some body) =
        .ok exchange ↔
      ∃ vars authTenant tenantName,
        baseVariablesSchema runtime value = some vars ∧
        authenticateTenantMiddleware runtime config authorization = .ok authTenant ∧
        resolveExchangeTenant vars.tenantName authTenant config.defaultTenantName =
          .ok tenantName ∧
        optionalFutureDate (answers.clock 0) expires = true ∧
        newExchange runtime config answers workflowId
          { vars := { vars with tenantName }, expires } = .ok exchange := by
  have parsed : vcApiExchangeCreateSchema runtime (answers.clock 0) body =
      orZodError ((baseVariablesSchema runtime value).bind fun vars =>
        if optionalFutureDate (answers.clock 0) expires then
          some { vars, expires : ExchangeCreateInput }
        else none) := by
    unfold vcApiExchangeCreateSchema
    rw [requiredMember, isValue, Option.bind_some, (expiresSchema_reads isExpires).2]
    cases optionalFutureDate (answers.clock 0) expires <;> rfl
  constructor
  · intro isCreated
    rcases bind_eq_ok.mp isCreated with ⟨data, accepted, made⟩
    rcases acceptExchangeCreate_eq_ok.mp accepted with
      ⟨authTenant, _, input, tenantName, isTenant, isBody, -, isInput, resolved, rfl⟩
    cases isBody
    rw [parsed, orZodError_eq_ok] at isInput
    rcases Option.bind_eq_some_iff.mp isInput with ⟨vars, isVars, passed⟩
    split at passed
    · rename_i first
      cases passed
      exact ⟨vars, authTenant, tenantName, isVars, isTenant, resolved, first, made⟩
    · cases passed
  · rintro ⟨vars, authTenant, tenantName, isVars, isTenant, resolved, first, made⟩
    rw [isVars, Option.bind_some, if_pos first] at parsed
    refine bind_eq_ok.mpr ⟨_, acceptExchangeCreate_eq_ok.mpr ?_, made⟩
    exact ⟨authTenant, body, _, tenantName, isTenant, rfl, isWorkflow, parsed, resolved, rfl⟩

private theorem bodyVariable_tenantName (isValue : body.field "variables" = some value)
    {vars : VariablesInput} (isVars : baseVariablesSchema runtime value = some vars) :
    (bodyVariable body "tenantName").bind Json.asString? = vars.tenantName := by
  have isTenant := (baseVariablesSchema_reads isVars).1
  unfold optionalMember at isTenant
  rw [bodyVariable, isValue, Option.bind_some]
  cases isField : value.field "tenantName" with
  | none =>
      rw [isField] at isTenant
      exact Option.some.inj isTenant
  | some member =>
      rw [isField] at isTenant
      rcases Option.map_eq_some_iff.mp isTenant with ⟨text, isText, same⟩
      rw [← same, Option.bind_some, isText]

/-! ## When the stages agree -/

theorem admitted_iff (isValue : body.field "variables" = some value) {vars : VariablesInput}
    (isVars : baseVariablesSchema runtime value = some vars) {expires : Option Timestamp}
    (isExpires : expiresSchema runtime now body = some expires) :
    Admitted runtime config answers authorization body ↔
      (∃ authTenant tenantName,
        authenticateTenantMiddleware runtime config authorization = .ok authTenant ∧
        resolveExchangeTenant vars.tenantName authTenant config.defaultTenantName =
          .ok tenantName) ∧
      optionalFutureDate (answers.clock 0) expires = true ∧
      optionalFutureDate (answers.clock 1) expires = true := by
  have sameTenant := bodyVariable_tenantName isValue isVars
  have sameDate := (expiresSchema_reads isExpires).1
  constructor
  · rintro ⟨tenant, first, second⟩
    rw [sameTenant] at tenant
    rw [sameDate] at first second
    exact ⟨tenant, first, second⟩
  · rintro ⟨tenant, first, second⟩
    rw [← sameTenant] at tenant
    rw [← sameDate] at first second
    exact ⟨tenant, first, second⟩

theorem claimsAsRegistered_iff (isValue : body.field "variables" = some value)
    {claims : List DcqlClaim}
    (isClaims : requiredMember value "vprClaims" (readArray verifyClaimSchema) = some claims) :
    ClaimsAsRegistered body ↔
      optionalMember value "vprClaims" (readArray vprClaimSchema) = some (some claims) := by
  rcases Option.bind_eq_some_iff.mp isClaims with ⟨member, isMember, isRead⟩
  have asked : bodyVariable body "vprClaims" = some member := by
    rw [bodyVariable, isValue, Option.bind_some, isMember]
  cases member with
  | arr items =>
      have agree := mapM_agree (fun _ _ => vprClaimSchema_agrees) isRead
      have isKept : optionalMember value "vprClaims" (readArray vprClaimSchema) =
          some (some claims) ↔ items.mapM vprClaimSchema = some claims := by
        rw [optionalMember, isMember]
        simp [readArray]
      rw [isKept, agree, ClaimsAsRegistered, asked]
      simp
  | _ => cases isRead

theorem verify_stages {data : VerifyCreateData}
    (accepted : exchangeCreateSchemaVerify runtime now body = .ok data) :
    (∃ tenantName,
      createdByRequest runtime config answers "verify" authorization (some body) =
        .ok (createExchange config (answers.skip 2 0 0)
          (.verify { data with tenantName }))) ↔
      Admitted runtime config answers authorization body ∧ ClaimsAsRegistered body := by
  rcases Option.bind_eq_some_iff.mp (orZodError_eq_ok.mp accepted) with ⟨vars, isVars, later⟩
  rcases Option.bind_eq_some_iff.mp later with ⟨expires, isExpires, same⟩
  cases same
  rcases Option.bind_eq_some_iff.mp isVars with ⟨value, isValue, isVars⟩
  rcases Option.bind_eq_some_iff.mp isVars with ⟨others, isOthers, isVars⟩
  rcases Option.bind_eq_some_iff.mp isVars with ⟨contexts, isContexts, isVars⟩
  rcases Option.bind_eq_some_iff.mp isVars with ⟨credentialTypes, isTypes, isVars⟩
  rcases Option.bind_eq_some_iff.mp isVars with ⟨claims, isClaims, same⟩
  cases same
  have isBase := baseVariablesSchema_vprClaims runtime value
  rw [isOthers] at isBase
  rw [claimsAsRegistered_iff isValue isClaims]
  constructor
  · rintro ⟨tenantName, isCreated⟩
    rw [createdByRequest_eq_ok isValue isExpires rfl] at isCreated
    rcases isCreated with ⟨vars, authTenant, resolvedName, isVars, isTenant, resolved, first, made⟩
    rcases bind_eq_ok.mp made with ⟨validated, isValidated, same⟩
    rcases validateExchangeVerify_eq_ok.mp isValidated with
      ⟨_, _, kept, -, -, isKept, second, -, rfl⟩
    have sameClaims : kept = claims := by
      injection same with same
      injection same with same
      have sameClaims := congrArg (fun made : ExchangeDetailVerify => made.vars.vprClaims) same
      simpa [createExchangeVerify, createdExchange, List.filterMap_map] using sameClaims
    have isMade := isVars
    rw [isBase] at isMade
    rcases Option.bind_eq_some_iff.mp isMade with ⟨_, same, afterOthers⟩
    cases same
    rcases Option.bind_eq_some_iff.mp afterOthers with ⟨readClaims, isReadClaims, same⟩
    cases same
    cases isKept
    refine ⟨(admitted_iff isValue isVars isExpires).mpr ⟨?_, first, second⟩, ?_⟩
    · exact ⟨authTenant, resolvedName, isTenant, resolved⟩
    · rw [isReadClaims, sameClaims]
  · rintro ⟨admitted, isKept⟩
    rw [isKept] at isBase
    rcases (admitted_iff isValue isBase isExpires).mp admitted with
      ⟨⟨authTenant, tenantName, isTenant, resolved⟩, first, second⟩
    rcases baseVariablesSchema_reads isBase with ⟨-, -, isContext, isType, -⟩
    rcases Option.bind_eq_some_iff.mp isContexts with ⟨member, isMember, isUrls⟩
    rcases readUrls isUrls with ⟨isTexts, urls⟩
    have keptContexts : others.vprContext = some contexts := by
      have isText : requiredMember value "vprContext" readTexts = some contexts := by
        rw [requiredMember, isMember, Option.bind_some, isTexts]
      rw [optionalMember_of_required isText] at isContext
      exact (Option.some.inj isContext).symm
    have keptTypes : others.vprCredentialType = some credentialTypes := by
      rw [optionalMember_of_required isTypes] at isType
      exact (Option.some.inj isType).symm
    refine ⟨tenantName, (createdByRequest_eq_ok isValue isExpires rfl).mpr ?_⟩
    refine ⟨_, authTenant, tenantName, isBase, isTenant, resolved, first, ?_⟩
    refine bind_eq_ok.mpr ⟨_, validateExchangeVerify_eq_ok.mpr ?_, rfl⟩
    exact ⟨contexts, credentialTypes, claims, keptContexts, keptTypes, rfl, second, urls, rfl⟩

theorem claim_stages {data : ClaimCreateData}
    (accepted : exchangeCreateSchemaClaim runtime now body = .ok data) :
    (∃ tenantName,
      createdByRequest runtime config answers "claim" authorization (some body) =
        .ok (createExchange config (answers.skip 2 0 0)
          (.claim { data with tenantName }))) ↔
      Admitted runtime config answers authorization body ∧
        bodyVariable body "subjectData" = none := by
  rcases Option.bind_eq_some_iff.mp (orZodError_eq_ok.mp accepted) with ⟨vars, isVars, later⟩
  rcases Option.bind_eq_some_iff.mp later with ⟨expires, isExpires, afterExpires⟩
  rcases Option.bind_eq_some_iff.mp afterExpires with ⟨vc, isVc, checked⟩
  rcases Option.bind_eq_some_iff.mp isVars with ⟨value, isValue, isVars⟩
  rcases Option.bind_eq_some_iff.mp isVars with ⟨base, isBase, isVars⟩
  rcases Option.bind_eq_some_iff.mp isVars with ⟨subjectData, isSubject, same⟩
  cases same
  have noSubject : bodyVariable body "subjectData" = none ↔ subjectData = none := by
    unfold optionalMember at isSubject
    rw [bodyVariable, isValue, Option.bind_some]
    cases isField : value.field "subjectData" with
    | none =>
        rw [isField] at isSubject
        simpa using isSubject.symm
    | some member =>
        rw [isField] at isSubject
        rcases Option.map_eq_some_iff.mp isSubject with ⟨kept, -, rfl⟩
        simp
  have unread : base.subjectData = none := (baseVariablesSchema_reads isBase).2.2.2.2
  rw [noSubject]
  split at checked
  · rename_i isTemplate
    cases checked
    constructor
    · rintro ⟨tenantName, isCreated⟩
      rw [createdByRequest_eq_ok isValue isExpires rfl] at isCreated
      rcases isCreated with ⟨_, authTenant, resolvedName, isVars, isTenant, resolved, first, made⟩
      cases isBase.symm.trans isVars
      rcases bind_eq_ok.mp made with ⟨validated, isValidated, same⟩
      rcases validateExchangeClaim_ok isValidated with
        ⟨_, keptSubject, -, -, second, absent, rfl⟩
      injection same with same
      injection same with same
      have sameSubject := congrArg (fun made : ExchangeDetailClaim => made.vars.subjectData) same
      refine ⟨(admitted_iff isValue isBase isExpires).mpr ⟨?_, first, second⟩, ?_⟩
      · exact ⟨authTenant, resolvedName, isTenant, resolved⟩
      · exact sameSubject.symm.trans (absent unread)
    · rintro ⟨admitted, rfl⟩
      rcases (admitted_iff isValue isBase isExpires).mp admitted with
        ⟨⟨authTenant, tenantName, isTenant, resolved⟩, first, second⟩
      refine ⟨tenantName, (createdByRequest_eq_ok isValue isExpires rfl).mpr ?_⟩
      refine ⟨_, authTenant, tenantName, isBase, isTenant, resolved, first, ?_⟩
      refine bind_eq_ok.mpr ⟨_, ?_, rfl⟩
      exact validateExchangeClaim_accepts isVc unread second isTemplate
  · cases checked

/-- Each workflow's schema agrees with the route on a body exactly when the body
is admitted and asks for nothing that the general schema does not register:
claims without values, ids of claims, subject data. -/
theorem stages_agree_iff (runtime : Runtime) (config : Config) (answers : Answers)
    (now : Timestamp) (authorization : Option String) (body : Json) :
    (VerifyStagesAgree runtime config answers now authorization body ↔
      (Succeeds (exchangeCreateSchemaVerify runtime now body) →
        Admitted runtime config answers authorization body ∧ ClaimsAsRegistered body)) ∧
    (ClaimStagesAgree runtime config answers now authorization body ↔
      (Succeeds (exchangeCreateSchemaClaim runtime now body) →
        Admitted runtime config answers authorization body ∧
          bodyVariable body "subjectData" = none)) := by
  constructor
  · constructor
    · rintro agree ⟨data, accepted⟩
      exact (verify_stages accepted).mp (agree data accepted)
    · intro fits data accepted
      exact (verify_stages accepted).mpr (fits ⟨data, accepted⟩)
  · constructor
    · rintro agree ⟨data, accepted⟩
      exact (claim_stages accepted).mp (agree data accepted)
    · intro fits data accepted
      exact (claim_stages accepted).mpr (fits ⟨data, accepted⟩)

/-! ## A claim that may take any value -/

def verifyAnyValue : Json :=
  .obj [("variables", .obj [("vprContext", .arr []), ("vprCredentialType", .arr []),
    ("vprClaims", .arr [.obj [("path", .arr [.str "credentialSubject"])]])])]

/-- The verify workflow accepts a claim without values; its route admits the
request and refuses the claim. -/
theorem claim_without_values_refused :
    Admitted Runtime.plain {} Answers.plain none verifyAnyValue ∧
      ¬ VerifyStagesAgree Runtime.plain {} Answers.plain 0 none verifyAnyValue := by
  constructor
  · exact ⟨⟨none, _, rfl, rfl⟩, rfl, rfl⟩
  · intro agree
    rcases agree _ rfl with ⟨tenantName, isCreated⟩
    cases isCreated

end

end TransactionService.CreationStages

